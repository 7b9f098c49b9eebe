import Kbcli.Types

/-!
# account コマンドの対象

`kbcli cluster` の account 系コマンドは `AccountBaseOptions.Validate` で対象を決める。
対象は cluster の名前（引数）か pod の名前（`--instance`）のどちらか一つで、`--component` は
cluster の名前と組むときだけ使える（`AccountBaseOptions.validate_ok_iff`）。

`Validate` が読むのは引数の個数、`PodName`、`ComponentName` で、書くのは `ClusterName` だけ。
Go の `len(s) > 0` は空でないことなので `≠ ""` と書く。
-/

namespace Kbcli.Accounts

/-- `AccountBaseOptions` のうち `Validate` が読み書きするもの。 -/
structure AccountBaseOptions where
  clusterName : String
  componentName : String
  podName : String
deriving DecidableEq, Repr

/-- `errClusterNameNum`。 -/
def errClusterNameNum : String := "please specify ONE cluster-name at a time"

/-- `errCompNameOrInstName`。 -/
def errCompNameOrInstName : String :=
  "please specify either --component or --instance, they are exclusive"

/-- `errClusterNameorInstName`。 -/
def errClusterNameorInstName : String := "specify either cluster name or --instance"

/-- `AccountBaseOptions.Validate`。 -/
def AccountBaseOptions.validate (o : AccountBaseOptions) (args : List String) :
    Except String AccountBaseOptions := do
  if args.length > 1 then throw errClusterNameNum
  if o.podName ≠ "" then
    if o.componentName ≠ "" then throw errCompNameOrInstName
    if args.length > 0 then throw errClusterNameorInstName
  else if args.length = 0 then throw errClusterNameorInstName
  match args with
  | [clusterName] => pure { o with clusterName }
  | _ => pure o

/-- **対象はちょうど一つ。** `Validate` が通るのは、`--instance` だけが与えられて cluster の
名前も `--component` もないときか、`--instance` がなく cluster の名前がちょうど一つのときに
限る。後者では `ClusterName` がその名前になり、ほかは変わらない。 -/
theorem AccountBaseOptions.validate_ok_iff {o o' : AccountBaseOptions} {args : List String} :
    o.validate args = .ok o' ↔
      (o.podName ≠ "" ∧ o.componentName = "" ∧ args = [] ∧ o' = o) ∨
        (o.podName = "" ∧ ∃ c, args = [c] ∧ o' = { o with clusterName := c }) := by
  unfold AccountBaseOptions.validate
  rcases args with _ | ⟨c, _ | ⟨d, rest⟩⟩
  · by_cases hp : o.podName = "" <;> by_cases hc : o.componentName = "" <;> simp [hp, hc, eq_comm]
  · by_cases hp : o.podName = "" <;> by_cases hc : o.componentName = "" <;> simp [hp, hc, eq_comm]
  · simp

/- 引数も `--instance` もなければ止まる（revoke の test の最初の場合）。 -/
example : (⟨"", "", ""⟩ : AccountBaseOptions).validate [] = .error errClusterNameorInstName := rfl

end Kbcli.Accounts
