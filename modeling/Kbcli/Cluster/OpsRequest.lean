import Kbcli.Cluster.CreateBackup

/-!
# backup と restore が出す OpsRequest

`kbcli cluster backup` と `kbcli cluster restore` は、どちらも OpsRequest を作って送る。
送る前に `CompleteBackup` と `CreateRestoreOptions.Validate` が、OpsRequest の名前と参照する
cluster を埋める。

* backup の OpsRequest は backup の名前を持ち、`--name` がなければ
  `backup-<namespace>-<cluster>-<時刻>` になる。
* restore の OpsRequest は新しい cluster の名前を持ち、`NAME` がなければ
  `generateClusterName` が作る。空の名前は error で止める。

どちらでも名前は空にならず、`clusterRef` は対象の cluster である（`opsRequest_named`）。
`generateClusterName` と `appsv1alpha1.RestoreType` はこの repository の外にあるので、
引数で受ける。
-/

namespace Kbcli.Cluster

/-- `CreateRestoreOptions` のうち `Validate` が読み書きするもの。`backupName` は
`RestoreSpec.BackupName`。 -/
structure CreateRestoreOptions where
  name : String
  ns : String
  backupName : String
  clusterRef : String
  opsType : String
  opsRequestName : String
deriving DecidableEq, Repr

/-- `CreateRestoreOptions.Validate`。 -/
def CreateRestoreOptions.validate (generateClusterName : String → Except String String)
    (restoreType : String) (o : CreateRestoreOptions) : Except String CreateRestoreOptions := do
  if o.backupName = "" then throw "must be specified one of the --backup "
  let o ← if o.name = "" then do
      let name ← generateClusterName o.ns
      if name = "" then throw "failed to generate a random cluster name"
      pure { o with name }
    else pure o
  pure { o with opsType := restoreType, clusterRef := o.name, opsRequestName := o.name }

/-- 四つの要素の `strings.Join`。 -/
theorem join_four (a b c d sep : String) :
    Go.join [a, b, c, d] sep = a ++ sep ++ b ++ sep ++ c ++ sep ++ d := by
  simp [Go.join, List.intercalate, String.ext_iff]

/-- `backup-` で始まる名前は空でない。 -/
theorem backup_prefix_ne_empty (rest : String) : "backup-" ++ rest ≠ "" := fun h => by
  have hlen := congrArg String.length h
  rw [String.length_append, (by decide : "backup-".length = 7)] at hlen
  simp at hlen

/-- **OpsRequest の名前と参照。** backup では、`CompleteBackup` は backup の名前を、`--name` が
なければ `backup-<namespace>-<cluster>-<時刻>` に、あればその名前に決め、OpsRequest の名前を
それに、`clusterRef` を対象の cluster に、`opsType` を backup の型にする。名前は空にならない。
restore では、`Validate` が通るのは `--backup` があり、新しい cluster の名前が空でないときに
限る。その名前は `NAME` があればそれ、なければ `generateClusterName` が返したもので、
OpsRequest の名前も `clusterRef` もそれになる。`generateClusterName` が空を返せば error で
止まる。 -/
theorem opsRequest_named (backupType timestamp : String) (ob : CreateBackupOptions)
    (generateClusterName : String → Except String String) (restoreType : String)
    (orr orr' : CreateRestoreOptions) :
    (let name := if ob.backupSpec.backupName = "" then
        "backup-" ++ ob.ns ++ "-" ++ ob.name ++ "-" ++ timestamp else ob.backupSpec.backupName;
      ob.completeBackup backupType timestamp =
          { ob with backupSpec := { ob.backupSpec with backupName := name }, opsType := backupType,
                    opsRequestName := name, clusterRef := ob.name } ∧ name ≠ "") ∧
    (orr.validate generateClusterName restoreType = .ok orr' ↔
      orr.backupName ≠ "" ∧ ∃ name,
        (if orr.name = "" then generateClusterName orr.ns = .ok name else name = orr.name) ∧
        name ≠ "" ∧
          orr' = { orr with name, clusterRef := name, opsRequestName := name, opsType := restoreType }) ∧
    (orr.backupName ≠ "" → orr.name = "" → generateClusterName orr.ns = .ok "" →
      orr.validate generateClusterName restoreType =
        .error "failed to generate a random cluster name") := by
  refine ⟨?_, ?_, fun hb hn hg => by simp [CreateRestoreOptions.validate, hb, hn, hg]⟩
  · by_cases hb : ob.backupSpec.backupName = ""
    · simp only [CreateBackupOptions.completeBackup, hb, if_true, join_four]
      exact ⟨rfl, by simpa only [String.append_assoc] using backup_prefix_ne_empty _⟩
    · simp [CreateBackupOptions.completeBackup, hb]
  · unfold CreateRestoreOptions.validate
    by_cases hb : orr.backupName = ""
    · simp [hb]
    by_cases hn : orr.name = ""
    · cases hg : generateClusterName orr.ns with
      | error e => simp [hb, hn, hg]
      | ok name => by_cases he : name = "" <;> simp [hb, hn, hg, he, eq_comm (a := orr')]
    · simp [hb, hn, eq_comm (a := orr')]

/-- cluster `mycluster` の名前なしの backup。 -/
def sampleBackup : CreateBackupOptions :=
  ⟨"mycluster", "default", ⟨"", "", "volume-snapshot", "", ""⟩, "", "", ""⟩

/-- 名前なしの restore。`generateClusterName` が `mycluster-restored` を返す。 -/
def sampleRestore : CreateRestoreOptions :=
  ⟨"", "default", "backup-default-mycluster-20230616190023", "", "", ""⟩

theorem opsRequest_named_sample :
    (sampleBackup.completeBackup "Backup" "20230616190023").opsRequestName =
        "backup-default-mycluster-20230616190023" ∧
      sampleRestore.validate (fun _ => .ok "mycluster-restored") "Restore" =
        .ok ⟨"mycluster-restored", "default", "backup-default-mycluster-20230616190023",
          "mycluster-restored", "Restore", "mycluster-restored"⟩ :=
  have h := opsRequest_named "Backup" "20230616190023" sampleBackup
    (fun _ => .ok "mycluster-restored") "Restore" sampleRestore
    ⟨"mycluster-restored", "default", "backup-default-mycluster-20230616190023",
      "mycluster-restored", "Restore", "mycluster-restored"⟩
  ⟨by rw [h.1.1]; rfl, h.2.1.mpr ⟨by decide, "mycluster-restored", rfl, by decide, rfl⟩⟩

end Kbcli.Cluster
