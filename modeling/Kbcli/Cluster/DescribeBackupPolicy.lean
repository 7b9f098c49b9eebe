import Kbcli.Cluster.BackupGate

/-!
# `kbcli cluster describe-backup-policy` と `list-backup-policy`

`Run` は namespace の policy を label selector で取り、`--name` があればその名前のものを、
なければ既定の印を持つものを説明する。既定の印の読み方は `kbcli cluster backup` が
`--policy` を省いたときと同じなので、cluster 一つを名指して `--name` を付けなければ、
説明される policy は backup が既定を選ぶ候補と一致する（`describe_matches_default`）。
`kbcli cluster list-backup-policy` の DEFAULT 欄も同じ読み方で、"true" の行は既定の候補の
行である（`list_default_rows`）。

selector は `util.BuildLabelSelectorByNames` が cluster の名前から作る。この関数は
repository の外にあるので、`Run` は `List` が返した列を受け取り、cluster 一つのときの
列は `Store.listBackupPolicies` で instance label を絞ったものとして与える。

Backup Methods の表は `Spec.BackupMethods` を読む。spec のモデルは edit が読み書きする
`backupRepoName` しか持たないので、policy の method の列は引数 `backupMethods` で受ける。
表の各行は `*v.SnapshotVolumes` を辿るので、nil の method があれば panic する
（`printBackupPolicyObj` が `none`）。
-/

namespace Kbcli.Cluster

/-- `dpv1alpha1.BackupMethod` のうち Backup Methods の表が読むもの。`snapshotVolumes` は
`*bool` なので nil がある。 -/
structure BackupMethod where
  name : String
  actionSetName : String
  snapshotVolumes : Option Bool
deriving DecidableEq, Repr

variable (defaultKey : String) (backupMethods : BackupPolicy → List BackupMethod)

/-- `DescribeBackupPolicyOptions` のうち `Validate` と `Run` が読むもの。 -/
structure DescribeBackupPolicyOptions where
  clusterNames : List String
  names : List String
deriving DecidableEq, Repr

/-- 画面に出すもの。`pair` は `printer.PrintPairStringToLine`、`methods` は Backup Methods の表の
行（Name、ActionSet、snapshot-volumes）。 -/
inductive Line
  | text (s : String)
  | pair (name value : String)
  | methods (rows : List (String × String × String))
deriving DecidableEq, Repr

/-- `realPrintPairStringToLine`。値が空なら何も出さない。 -/
def realPrintPairStringToLine (name value : String) : List Line :=
  if value ≠ "" then [.pair name value] else []

/-- `strconv.FormatBool`。 -/
def formatBool (b : Bool) : String := if b then "true" else "false"

/-- Backup Methods の表の一行。`strconv.FormatBool(*v.SnapshotVolumes)` は nil で panic する。 -/
def methodRow (v : BackupMethod) : Option (String × String × String) :=
  v.snapshotVolumes.map fun b => (v.name, v.actionSetName, formatBool b)

/-- `printBackupPolicyObj`。`none` は Backup Methods の表での panic。 -/
def printBackupPolicyObj (obj : BackupPolicy) : Option (List Line) := do
  let rows ← (backupMethods obj).mapM methodRow
  pure ([.text "Summary:"] ++ realPrintPairStringToLine "Name" obj.meta.name ++
    realPrintPairStringToLine "Cluster" (lookupOrEmpty obj.meta.labels appInstanceLabelKey) ++
    realPrintPairStringToLine "Namespace" obj.meta.ns ++
    realPrintPairStringToLine "Default"
      (formatBool (lookupOrEmpty obj.meta.annotations defaultKey == "true")) ++
    (match obj.spec.backupRepoName with
      | some repo => realPrintPairStringToLine "Backup Repo Name" repo
      | none => []) ++
    [.text "\nBackup Methods:", .methods rows])

/-- `Validate`。 -/
def DescribeBackupPolicyOptions.validate (o : DescribeBackupPolicyOptions) : Except String Unit :=
  if o.clusterNames = [] ∧ o.names = [] then .error "missing cluster name or backup policy name"
  else .ok ()

/-- `Run` の繰り返しで飛ばさない policy: `--name` があればその名前、なければ既定の印。 -/
def DescribeBackupPolicyOptions.shows (o : DescribeBackupPolicyOptions) (obj : BackupPolicy) :
    Bool :=
  let isDefault := lookupOrEmpty obj.meta.annotations defaultKey == "true"
  if o.names ≠ [] ∧ obj.meta.name ∉ o.names then false
  else if o.names = [] ∧ !isDefault then false
  else true

/-- `Run` が説明する policy。 -/
def DescribeBackupPolicyOptions.described (o : DescribeBackupPolicyOptions)
    (items : List BackupPolicy) : List BackupPolicy :=
  items.filter (o.shows defaultKey)

/-- `Run`。`items` は `List` が返した列。`none` は policy の説明の途中の panic。 -/
def DescribeBackupPolicyOptions.run (o : DescribeBackupPolicyOptions)
    (items : Except String (List BackupPolicy)) : Option (Except String (List Line)) :=
  match items with
  | .error e => some (.error e)
  | .ok [] => some (.ok [.text "No backup policy found\n"])
  | .ok backupPolicyList =>
    ((o.described defaultKey backupPolicyList).mapM
      (printBackupPolicyObj defaultKey backupMethods)).map fun lines => .ok lines.flatten

/-- 要素ごとの計算のどれかが panic すれば、列全体も panic する。 -/
theorem mapM_option_eq_none {α β : Type} (f : α → Option β) (l : List α) :
    l.mapM f = none ↔ ∃ x ∈ l, f x = none := by
  induction l with
  | nil => exact iff_of_false (Option.some_ne_none _) (by simp)
  | cons x l ih =>
    rw [List.mapM_cons]
    cases hx : f x with
    | none => exact iff_of_true rfl ⟨x, List.mem_cons_self _ _, hx⟩
    | some b =>
      have hrest : (∃ y ∈ x :: l, f y = none) ↔ ∃ y ∈ l, f y = none := by simp [hx]
      rw [hrest, ← ih]
      cases l.mapM f <;> simp

/-- 説明される policy のどれかに nil の `SnapshotVolumes` を持つ method があれば、`Run` は
panic する。 -/
theorem run_panics_iff {o : DescribeBackupPolicyOptions} {items : List BackupPolicy}
    (hne : items ≠ []) :
    o.run defaultKey backupMethods (.ok items) = none ↔
      ∃ p ∈ o.described defaultKey items, ∃ v ∈ backupMethods p, v.snapshotVolumes = none := by
  have hobj : ∀ p, printBackupPolicyObj defaultKey backupMethods p = none ↔
      ∃ v ∈ backupMethods p, v.snapshotVolumes = none := fun p => by
    have hrows : (∃ v ∈ backupMethods p, v.snapshotVolumes = none) ↔
        (backupMethods p).mapM methodRow = none := by
      simp only [mapM_option_eq_none, methodRow, Option.map_eq_none']
    rw [hrows, printBackupPolicyObj]
    cases (backupMethods p).mapM methodRow <;> simp
  match items, hne with
  | _ :: _, _ =>
    simp only [DescribeBackupPolicyOptions.run]
    rw [Option.map_eq_none', mapM_option_eq_none]
    simp only [hobj]

/-- 既定の印を持つ policy `mycluster-policy`。 -/
def defaultPolicySample : BackupPolicy :=
  ⟨⟨"mycluster-policy", "default", [(appInstanceLabelKey, "mycluster")],
    [("is-default-policy", "true")]⟩, ⟨none⟩⟩

theorem run_panics_iff_sample :
    [defaultPolicySample] ≠ [] ∧
      (DescribeBackupPolicyOptions.mk ["mycluster"] []).run "is-default-policy"
          (fun _ => [⟨"volume-snapshot", "volumesnapshot", none⟩]) (.ok [defaultPolicySample]) =
        none :=
  ⟨List.cons_ne_nil _ _, (run_panics_iff "is-default-policy" _ (List.cons_ne_nil _ _)).mpr
    ⟨defaultPolicySample, by decide, _, List.mem_singleton_self _, rfl⟩⟩

/-! ## 説明される policy -/

/-- `--name` がなければ、説明されるのは既定の印を持つ policy である。 -/
theorem described_of_names_nil {o : DescribeBackupPolicyOptions} (h : o.names = [])
    (items : List BackupPolicy) :
    o.described defaultKey items = defaultBackupPolicies defaultKey items :=
  List.filter_congr fun p _ => by simp [DescribeBackupPolicyOptions.shows, trueValue, h]; rfl

/-- `--name` があれば、説明されるのはその名前の policy である。 -/
theorem described_of_names_ne_nil {o : DescribeBackupPolicyOptions} (h : o.names ≠ [])
    (items : List BackupPolicy) :
    o.described defaultKey items = items.filter (·.meta.name ∈ o.names) :=
  List.filter_congr fun p _ => by
    by_cases hp : p.meta.name ∈ o.names <;> simp [DescribeBackupPolicyOptions.shows, h, hp]

/-- **二つのコマンドの一致。** cluster `c` を名指して `--name` を付けない describe-backup-policy が
説明する policy は、`kbcli cluster backup c` が `--policy` を省いたときの候補と同じ。
したがって backup が既定の policy `n` を選ぶのは、cluster があり、describe が説明する policy が
ちょうど一つでその名前が `n` のときに限る。 -/
theorem describe_matches_default {s : Store} {o : DescribeBackupPolicyOptions}
    (hnames : o.names = []) {b : CreateBackupOptions} {n : String} :
    b.getDefaultBackupPolicy defaultKey s = .ok n ↔
      (∃ c, s.getCluster b.ns b.name = .ok c) ∧
        ∃ p, o.described defaultKey (s.listBackupPolicies b.ns appInstanceLabelKey b.name) = [p] ∧
          p.meta.name = n := by
  rw [getDefaultBackupPolicy_eq_ok_iff, described_of_names_nil defaultKey hnames]
  rfl

theorem describe_matches_default_sample :
    let o : DescribeBackupPolicyOptions := ⟨["mycluster"], []⟩
    o.names = [] ∧
      ((sampleBackupOptions "").getDefaultBackupPolicy "is-default-policy" sampleBackupStore =
          .ok "mycluster-policy" ↔
        (∃ c, sampleBackupStore.getCluster "default" "mycluster" = .ok c) ∧
          ∃ p, o.described "is-default-policy"
              (sampleBackupStore.listBackupPolicies "default" appInstanceLabelKey "mycluster") = [p] ∧
            p.meta.name = "mycluster-policy") :=
  ⟨rfl, describe_matches_default "is-default-policy" rfl⟩

/-! ## list-backup-policy -/

/-- `PrintBackupPolicyList` の一行のうち NAME、NAMESPACE、DEFAULT、CLUSTER。CREATE-TIME と
STATUS はモデルの外。 -/
structure PolicyRow where
  name : String
  ns : String
  isDefault : String
  cluster : String
deriving DecidableEq, Repr

/-- 一行。DEFAULT は annotation の値そのままで、annotation がなければ "false"。 -/
def policyRow (obj : BackupPolicy) : PolicyRow :=
  let defaultPolicy := match obj.meta.annotations.lookup defaultKey with
    | some v => v
    | none => "false"
  ⟨obj.meta.name, obj.meta.ns, defaultPolicy, lookupOrEmpty obj.meta.labels appInstanceLabelKey⟩

/-- `PrintBackupPolicyList` の表。`names` があればその名前の行だけを出す。 -/
def printBackupPolicyList (names : List String) (items : List BackupPolicy) : List PolicyRow :=
  (items.filter fun obj => !(names ≠ [] ∧ obj.meta.name ∉ names)).map (policyRow defaultKey)

theorem policyRow_isDefault (obj : BackupPolicy) :
    (policyRow defaultKey obj).isDefault = "true" ↔
      lookupOrEmpty obj.meta.annotations defaultKey = trueValue := by
  unfold policyRow lookupOrEmpty trueValue
  cases obj.meta.annotations.lookup defaultKey with
  | none => simp only [Option.getD_none]; exact iff_of_false (by decide) (by decide)
  | some v => rfl

/-- **DEFAULT 欄の読み方。** list-backup-policy が DEFAULT を "true" と書く行は、backup が既定の
候補に数える policy の行にちょうど一致する。`describe_matches_default` とあわせて、三つの
コマンドは既定の印を同じに読む。ほかの値（"True" など）は欄にそのまま出るが、既定には
数えられない。 -/
theorem list_default_rows (items : List BackupPolicy) :
    (printBackupPolicyList defaultKey [] items).filter (·.isDefault = "true") =
      (defaultBackupPolicies defaultKey items).map (policyRow defaultKey) := by
  simp only [printBackupPolicyList, ne_eq, not_true_eq_false, false_and, Bool.not_false,
    decide_False, List.filter_true, List.filter_map, defaultBackupPolicies]
  congr 1
  exact List.filter_congr fun p _ => by
    simp only [Function.comp, policyRow_isDefault, trueValue]; rfl

end Kbcli.Cluster
