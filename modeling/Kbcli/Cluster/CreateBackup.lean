import Kbcli.Types

/-!
# `kbcli cluster backup`

`CompleteBackup` が backup の名前を決め、`Validate` が作ってよいかを API server の状態に
照らして確かめる。`Validate` が読むのは cluster、BackupPolicy、親の Backup で、
書くのは `--policy` を省いたときの既定の policy 名だけである。

## API server

`Store` は API server が持つ object の全体で、どの種類でも `(namespace, name)` は一つの
object にしか付かない。これは Kubernetes が保証することなので、構造体の field に持たせて
おく。`Get` は名前で引き、`List` は label selector `key=value` で絞る。selector は
`fmt.Sprintf("%s=%s", …)` で作る文字列だが、cluster の名前は DNS の名前で `=` も `,` も
含まないので、組 `(key, value)` のまま渡す。

`dptypes.DefaultBackupPolicyAnnotationKey` と `RetentionPeriod.ToDuration` はこの
repository の外にあるので、それぞれ引数 `defaultKey` と `retentionValid` で受ける。
-/

namespace Kbcli.Cluster

/-- API server が持つ object。どの種類でも `(namespace, name)` は重ならない。 -/
structure Store where
  clusters : List Cluster
  backupPolicies : List BackupPolicy
  backups : List Backup
  clusters_nodup : (clusters.map (·.meta.key)).Nodup
  backupPolicies_nodup : (backupPolicies.map (·.meta.key)).Nodup
  backups_nodup : (backups.map (·.meta.key)).Nodup

/-- `Get` は `(namespace, name)` の一致で引く。 -/
def findByKey {α : Type} (meta : α → ObjectMeta) (xs : List α) (ns name : String) : Option α :=
  xs.find? fun x => (meta x).ns = ns ∧ (meta x).name = name

/-- `Resource(gvr).Namespace(ns).Get(name)`。見つからなければ `resource` の `NotFound`。 -/
def getFrom {α : Type} (meta : α → ObjectMeta) (resource : String) (xs : List α)
    (ns name : String) : Except String α :=
  match findByKey meta xs ns name with
  | some x => .ok x
  | none => .error (notFound resource name)

/-- `Resource(types.ClusterGVR()).Namespace(ns).Get(name)`。 -/
def Store.getCluster (s : Store) (ns name : String) : Except String Cluster :=
  getFrom (·.meta) "clusters.apps.kubeblocks.io" s.clusters ns name

/-- `Resource(types.BackupPolicyGVR()).Namespace(ns).Get(name)`。 -/
def Store.getBackupPolicy (s : Store) (ns name : String) : Except String BackupPolicy :=
  getFrom (·.meta) "backuppolicies.dataprotection.kubeblocks.io" s.backupPolicies ns name

/-- `Resource(types.BackupGVR()).Namespace(ns).Get(name)`。 -/
def Store.getBackup (s : Store) (ns name : String) : Except String Backup :=
  getFrom (·.meta) "backups.dataprotection.kubeblocks.io" s.backups ns name

/-- `Resource(types.BackupPolicyGVR()).Namespace(ns).List(LabelSelector: key=value)`。 -/
def Store.listBackupPolicies (s : Store) (ns key value : String) : List BackupPolicy :=
  s.backupPolicies.filter fun p => p.meta.ns = ns ∧ p.meta.labels.lookup key = some value

theorem findByKey_eq_some {α : Type} {meta : α → ObjectMeta} {xs : List α} {ns name : String}
    {x : α} (h : findByKey meta xs ns name = some x) : x ∈ xs ∧ (meta x).key = ⟨ns, name⟩ := by
  have hp := List.find?_some h
  simp only [decide_eq_true_eq] at hp
  exact ⟨List.mem_of_find?_eq_some h, by simp [ObjectMeta.key, hp]⟩

/-- 名前が重ならなければ、その名前の object を引き当てる。 -/
theorem findByKey_of_mem {α : Type} {meta : α → ObjectMeta} {xs : List α}
    (hnd : (xs.map fun x => (meta x).key).Nodup) {x : α} (hx : x ∈ xs) :
    findByKey meta xs (meta x).ns (meta x).name = some x := by
  induction xs with
  | nil => simp at hx
  | cons y ys ih =>
    simp only [List.map_cons, List.nodup_cons, List.mem_map] at hnd
    rcases List.mem_cons.mp hx with rfl | hx
    · simp [findByKey]
    · have hne : ¬((meta y).ns = (meta x).ns ∧ (meta y).name = (meta x).name) := by
        rintro ⟨h1, h2⟩
        exact hnd.1 ⟨x, hx, by simp [ObjectMeta.key, h1, h2]⟩
      simp only [findByKey, List.find?_cons, hne, decide_False] at ih ⊢
      exact ih hnd.2 hx

/-- 名前の重ならない列では、`Get` が返すのはその名前を持つ object に限る。 -/
theorem getFrom_eq_ok_iff {α : Type} {meta : α → ObjectMeta} {resource : String} {xs : List α}
    (hnd : (xs.map fun x => (meta x).key).Nodup) {ns name : String} {x : α} :
    getFrom meta resource xs ns name = .ok x ↔ x ∈ xs ∧ (meta x).key = ⟨ns, name⟩ := by
  constructor
  · intro h
    unfold getFrom at h
    split at h
    · cases h; exact findByKey_eq_some ‹_›
    · cases h
  · rintro ⟨hx, hk⟩
    obtain ⟨rfl, rfl⟩ : (meta x).ns = ns ∧ (meta x).name = name := by
      simpa [ObjectMeta.key] using hk
    simp [getFrom, findByKey_of_mem hnd hx]

/-! ## options -/

/-- `appsv1alpha1.BackupSpec` のうち `Validate` と `CompleteBackup` が読むもの。 -/
structure BackupSpec where
  backupName : String
  backupPolicyName : String
  backupMethod : String
  retentionPeriod : String
  parentBackupName : String
deriving DecidableEq, Repr

/-- `CreateBackupOptions`。`name` と `ns` は埋め込まれた `action.CreateOptions` の
`Name`（対象の cluster）と `Namespace`。 -/
structure CreateBackupOptions where
  name : String
  ns : String
  backupSpec : BackupSpec
  clusterRef : String
  opsType : String
  opsRequestName : String
deriving DecidableEq, Repr

/-- `TrueValue`。 -/
def trueValue : String := "true"

/-- Modelled from the spec: `dpv1alpha1.BackupPhaseCompleted`, the phase a parent backup must
be in ("a terminal completed state", phase `Completed` in the spec's backup scenario). -/
def backupPhaseCompleted : String := "Completed"

variable (defaultKey : String) (retentionValid : String → Bool)

/-- 既定の印 `defaultKey: "true"` を持つ policy だけを残す。 -/
def defaultBackupPolicies (objs : List BackupPolicy) : List BackupPolicy :=
  objs.filter fun obj => lookupOrEmpty obj.meta.annotations defaultKey == trueValue

/-- `getDefaultBackupPolicy`。cluster の label を持つ policy のうち、既定の印がちょうど
一つにだけ付いていれば、その名前。 -/
def CreateBackupOptions.getDefaultBackupPolicy (s : Store) (o : CreateBackupOptions) :
    Except String String := do
  let clusterObj ← s.getCluster o.ns o.name
  let objs := s.listBackupPolicies o.ns appInstanceLabelKey clusterObj.meta.name
  if objs = [] then
    throw ("not found any backup policy for cluster \"" ++ o.name ++ "\"")
  match defaultBackupPolicies defaultKey objs with
  | [] => throw ("not found any default backup policy for cluster \"" ++ o.name ++ "\"")
  | [p] => pure p.meta.name
  | _ :: _ :: _ => throw ("cluster \"" ++ o.name ++ "\" has multiple default backup policies")

/-- `completeDefaultBackupPolicy`。 -/
def CreateBackupOptions.completeDefaultBackupPolicy (s : Store) (o : CreateBackupOptions) :
    Except String CreateBackupOptions := do
  let name ← o.getDefaultBackupPolicy defaultKey s
  pure { o with backupSpec := { o.backupSpec with backupPolicyName := name } }

/-- `Validate` の最初の段。`--policy` がなければ既定の policy を入れる。 -/
def CreateBackupOptions.settlePolicy (s : Store) (o : CreateBackupOptions) :
    Except String CreateBackupOptions :=
  if o.backupSpec.backupPolicyName = "" then o.completeDefaultBackupPolicy defaultKey s else pure o

/-- `Validate`。policy を決めてから、policy、method、保持期間、親の backup を順に確かめる。 -/
def CreateBackupOptions.validate (s : Store) (o : CreateBackupOptions) :
    Except String CreateBackupOptions := do
  if o.name = "" then throw "missing cluster name"
  let o ← o.settlePolicy defaultKey s
  let _ ← s.getBackupPolicy o.ns o.backupSpec.backupPolicyName
  if o.backupSpec.backupMethod = "" then
    throw "backup method can not be empty, you can specify it by --method"
  if o.backupSpec.retentionPeriod ≠ "" ∧ retentionValid o.backupSpec.retentionPeriod = false then
    throw ("invalid retention period, please refer to examples [1y, 1m, 1d, 1h, 1m] " ++
      "or combine them [1y1m1d1h1m]")
  if o.backupSpec.parentBackupName ≠ "" then
    let parentBackup ← s.getBackup o.ns o.backupSpec.parentBackupName
    if parentBackup.phase ≠ backupPhaseCompleted then
      throw ("parent backup " ++ o.backupSpec.parentBackupName ++ " is not completed")
    if lookupOrEmpty parentBackup.meta.labels appInstanceLabelKey ≠ o.name then
      throw ("parent backup " ++ o.backupSpec.parentBackupName ++ " is not belong to cluster " ++
        o.name)
  pure o

/-- `CompleteBackup` のうち、`action.CreateOptions.Complete` の後にすること。名前がなければ
`backup-<namespace>-<cluster>-<時刻>` を作り、ops request の名前と参照する cluster を入れる。
`opsType` は `appsv1alpha1.BackupType` で、引数で受ける。 -/
def CreateBackupOptions.completeBackup (backupType timestamp : String) (o : CreateBackupOptions) :
    CreateBackupOptions :=
  let backupName := if o.backupSpec.backupName = "" then
      Go.join ["backup", o.ns, o.name, timestamp] "-" else o.backupSpec.backupName
  { o with backupSpec := { o.backupSpec with backupName }, opsType := backupType,
           opsRequestName := backupName, clusterRef := o.name }

end Kbcli.Cluster
