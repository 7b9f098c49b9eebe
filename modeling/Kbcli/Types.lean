import Kbcli.Go.Strings

/-!
# Kubernetes の object

`kbcli` が API server から読む object のうち、モデルにする関数が触る field だけを持つ。
label と annotation は Go の `map[string]string` で、ここでは key の重ならない組の列にする。
引いて見つからない key は Go の零値 `""` になる（`lookupOrEmpty`）。
-/

namespace Kbcli

/-- `client.ObjectKey`。 -/
structure ObjectKey where
  /-- `Namespace`。`namespace` は Lean の予約語なので `ns` と書く。 -/
  ns : String
  name : String
deriving DecidableEq, Repr

/-- `metav1.ObjectMeta` のうち読まれるもの。 -/
structure ObjectMeta where
  name : String
  ns : String
  labels : List (String × String)
  annotations : List (String × String)
deriving DecidableEq, Repr

/-- `client.ObjectKeyFromObject`。 -/
def ObjectMeta.key (m : ObjectMeta) : ObjectKey := ⟨m.ns, m.name⟩

/-- `types.NamespacedName.String`。namespace が空でも区切りの `/` は付く。 -/
def ObjectKey.toString (k : ObjectKey) : String := k.ns ++ "/" ++ k.name

/-- `apierrors.NewNotFound` の文。名前は DNS の名前なので `%q` は引用符で囲むだけになる。 -/
def notFound (resource name : String) : String := resource ++ " \"" ++ name ++ "\" not found"

/-- `m[k]`。ない key は `""`。 -/
def lookupOrEmpty (m : List (String × String)) (k : String) : String := (m.lookup k).getD ""

/-! ## error を返す計算

Go の `if err != nil { return err }` は `Except` の bind で書く。次の四つで、値の決まった
計算を bind の外へ出す。 -/

@[simp] theorem throw_eq_error {ε α : Type} (e : ε) : (throw e : Except ε α) = .error e := rfl

@[simp] theorem pure_eq_ok {ε α : Type} (a : α) : (pure a : Except ε α) = .ok a := rfl

@[simp] theorem ok_bind {ε α β : Type} (a : α) (f : α → Except ε β) :
    (Except.ok a >>= f) = f a := rfl

@[simp] theorem error_bind {ε α β : Type} (e : ε) (f : α → Except ε β) :
    (Except.error e >>= f) = .error e := rfl

/-- Modelled from the spec: `constant.AppInstanceLabelKey`, the label that ties an object to
its cluster (`app.kubernetes.io/instance=mycluster` in the spec's backup scenario). -/
def appInstanceLabelKey : String := "app.kubernetes.io/instance"

/-- `BackupPolicySpec` のうち edit が読み書きする field。`*string` なので nil がある。 -/
structure BackupPolicySpec where
  backupRepoName : Option String
deriving DecidableEq, Repr

/-- `dpv1alpha1.BackupPolicy`。 -/
structure BackupPolicy where
  meta : ObjectMeta
  spec : BackupPolicySpec
deriving DecidableEq, Repr

/-- `dpv1alpha1.Backup`。status は phase だけを読む。 -/
structure Backup where
  meta : ObjectMeta
  phase : String
deriving DecidableEq, Repr

/-- `appsv1alpha1.Cluster`。名前しか読まない。 -/
structure Cluster where
  meta : ObjectMeta
deriving DecidableEq, Repr

end Kbcli
