import Kbcli.Types

/-!
# `action.DeleteOptions` を埋めるコマンド

`kbcli cluster delete-backup` と `kbcli migration terminate` は、引数から
`action.DeleteOptions` を埋めて `Run` に渡す。`Run` はこの repository の外にある。

`completeForDeleteBackup` は `--force` だけで `--name` がないとき、cluster の全 backup を
消すつもりで label selector と `ConfirmedNames` を cluster の名前にするが、その直後の
`o.ConfirmedNames = o.Names` がどの場合にも `ConfirmedNames` を上書きする
（`completeForDeleteBackup_ok_iff`）。

`util.BuildLabelSelectorByNames` も repository の外にあるので、引数
`buildLabelSelectorByNames` で受ける。
-/

namespace Kbcli.Action

/-- `action.DeleteOptions` のうち読み書きされるもの。 -/
structure DeleteOptions where
  names : List String
  force : Bool
  labelSelector : String
  confirmedNames : List String
deriving DecidableEq, Repr

variable (buildLabelSelectorByNames : String → List String → String)

/-- `completeForDeleteBackup`。 -/
def completeForDeleteBackup (o : DeleteOptions) (args : List String) :
    Except String DeleteOptions := do
  if args.length = 0 then throw "Missing cluster name"
  if args.length > 1 then throw "Only supported delete the Backup of one cluster"
  if !o.force ∧ o.names.length = 0 then throw "Missing --name as backup name."
  let o := if o.force ∧ o.names.length = 0 then
      { o with labelSelector := buildLabelSelectorByNames o.labelSelector args,
               confirmedNames := args }
    else o
  pure { o with confirmedNames := o.names }

/-- `deleteMigrationTask` のうち `o.Run()` の前まで。 -/
def deleteMigrationTask (o : DeleteOptions) (args : List String) : Except String DeleteOptions :=
  if args.length = 0 then .error "missing migration task name" else .ok { o with names := args }

/-- **確かめられる名前は `--name` だけ。** delete-backup の補完が通るのは cluster の名前が
ちょうど一つで、`--force` か `--name` があるときに限る。通れば `ConfirmedNames` は `Names` に
なり、label selector が変わるのは `--force` だけで `--name` がないときで、そのとき
`ConfirmedNames` は空になる。 -/
theorem completeForDeleteBackup_ok_iff {o o' : DeleteOptions} {args : List String} :
    completeForDeleteBackup buildLabelSelectorByNames o args = .ok o' ↔
      ∃ c, args = [c] ∧ (o.force = true ∨ o.names ≠ []) ∧
        o' = { o with
          labelSelector := if o.force = true ∧ o.names = [] then
            buildLabelSelectorByNames o.labelSelector args else o.labelSelector,
          confirmedNames := o.names } := by
  unfold completeForDeleteBackup
  rcases args with _ | ⟨c, _ | ⟨d, rest⟩⟩
  · simp
  · cases hf : o.force <;> by_cases hn : o.names = [] <;> simp [hf, hn, eq_comm]
  · simp

end Kbcli.Action
