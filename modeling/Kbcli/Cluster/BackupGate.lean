import Kbcli.Cluster.CreateBackup

/-!
# `Validate` の関門

`Validate` が通るのはいつかを、API server の状態の言葉で言い直す（`validate_eq_ok_iff`）。
証明は段ごとに分かれる。

* `getDefaultBackupPolicy` は、cluster があり、その label と既定の印を持つ policy が
  ちょうど一つのときに限って、その名前を返す。
* `settlePolicy` は `--policy` があればそのまま、なければ上の名前を入れる。
* 残りは `Admitted`: policy があり、method が空でなく、保持期間が読め、親の backup が
  `Completed` で同じ cluster のものであること。

`Get` を store の中身に読み替えると、通った `Validate` について言えることは
`CreateAllowed` にまとまる（`validate_gate`）。

## 名指した policy の持ち主

親の backup には cluster の label を確かめるが、`--policy` で名指した policy には
あるかどうかしか確かめない（`validate_accepts_foreign_policy`）。補完関数も既定の policy
の選び方も cluster の label で policy を絞っているのと食い違う。
-/

namespace Kbcli.Cluster

variable (defaultKey : String) (retentionValid : String → Bool)

/-- `Validate` が policy を決めた後に確かめること。 -/
structure Admitted (s : Store) (o : CreateBackupOptions) : Prop where
  policy : ∃ p, s.getBackupPolicy o.ns o.backupSpec.backupPolicyName = .ok p
  method : o.backupSpec.backupMethod ≠ ""
  retention : o.backupSpec.retentionPeriod ≠ "" → retentionValid o.backupSpec.retentionPeriod = true
  parent : o.backupSpec.parentBackupName ≠ "" → ∃ b,
    s.getBackup o.ns o.backupSpec.parentBackupName = .ok b ∧ b.phase = backupPhaseCompleted ∧
      lookupOrEmpty b.meta.labels appInstanceLabelKey = o.name

/-- cluster `o.name` の label と既定の印を持つ、namespace の policy。 -/
def clusterDefaultPolicies (s : Store) (o : CreateBackupOptions) : List BackupPolicy :=
  defaultBackupPolicies defaultKey (s.listBackupPolicies o.ns appInstanceLabelKey o.name)

theorem mem_clusterDefaultPolicies {s : Store} {o : CreateBackupOptions} {p : BackupPolicy}
    (h : p ∈ clusterDefaultPolicies defaultKey s o) :
    p ∈ s.backupPolicies ∧ p.meta.ns = o.ns ∧ p.meta.labels.lookup appInstanceLabelKey = some o.name ∧
      lookupOrEmpty p.meta.annotations defaultKey = trueValue := by
  simp only [clusterDefaultPolicies, defaultBackupPolicies, Store.listBackupPolicies,
    List.mem_filter, decide_eq_true_eq, beq_iff_eq] at h
  exact ⟨h.1.1, h.1.2.1, h.1.2.2, h.2⟩

/-! ## 段ごとの読み -/

/-- 既定の policy が決まるのは、cluster があり、候補がちょうど一つのときである。 -/
theorem getDefaultBackupPolicy_eq_ok_iff {s : Store} {o : CreateBackupOptions} {n : String} :
    o.getDefaultBackupPolicy defaultKey s = .ok n ↔
      (∃ c, s.getCluster o.ns o.name = .ok c) ∧
        ∃ p, clusterDefaultPolicies defaultKey s o = [p] ∧ p.meta.name = n := by
  unfold CreateBackupOptions.getDefaultBackupPolicy
  cases hc : s.getCluster o.ns o.name with
  | error e => simp
  | ok c =>
    have hname : c.meta.name = o.name :=
      congrArg ObjectKey.name ((getFrom_eq_ok_iff s.clusters_nodup).mp hc).2
    simp only [ok_bind, hname, clusterDefaultPolicies]
    by_cases ho : s.listBackupPolicies o.ns appInstanceLabelKey o.name = []
    · simp [ho, defaultBackupPolicies]
    · rw [if_neg ho]
      simp only [pure_eq_ok, ok_bind, exists_apply_eq_apply, true_and]
      rcases defaultBackupPolicies defaultKey (s.listBackupPolicies o.ns appInstanceLabelKey o.name)
        with _ | ⟨p, _ | ⟨q, rest⟩⟩ <;>
        simp

/-- `settlePolicy` は policy の名前だけを入れる。省いたときは既定の policy の名前である。 -/
theorem settlePolicy_eq_ok {s : Store} {o o' : CreateBackupOptions}
    (h : o.settlePolicy defaultKey s = .ok o') :
    o' = { o with backupSpec := { o.backupSpec with
      backupPolicyName := o'.backupSpec.backupPolicyName } } ∧
    (o.backupSpec.backupPolicyName = "" → (∃ c, s.getCluster o.ns o.name = .ok c) ∧
      ∃ p, clusterDefaultPolicies defaultKey s o = [p] ∧
        p.meta.name = o'.backupSpec.backupPolicyName) ∧
    (o.backupSpec.backupPolicyName ≠ "" → o' = o) := by
  unfold CreateBackupOptions.settlePolicy at h
  by_cases he : o.backupSpec.backupPolicyName = ""
  · rw [if_pos he] at h
    unfold CreateBackupOptions.completeDefaultBackupPolicy at h
    cases hd : o.getDefaultBackupPolicy defaultKey s with
    | error e => simp [hd] at h
    | ok n =>
      simp only [hd, ok_bind, pure_eq_ok, Except.ok.injEq] at h
      subst h
      exact ⟨rfl, fun _ => (getDefaultBackupPolicy_eq_ok_iff defaultKey).mp hd,
        fun hne => absurd he hne⟩
  · rw [if_neg he] at h
    cases h
    exact ⟨rfl, fun h' => absurd h' he, fun _ => rfl⟩

/-- `Admitted` を連言で読む。 -/
theorem admitted_iff {s : Store} {o : CreateBackupOptions} :
    Admitted retentionValid s o ↔
      (∃ p, s.getBackupPolicy o.ns o.backupSpec.backupPolicyName = .ok p) ∧
      o.backupSpec.backupMethod ≠ "" ∧
      (o.backupSpec.retentionPeriod ≠ "" → retentionValid o.backupSpec.retentionPeriod = true) ∧
      (o.backupSpec.parentBackupName ≠ "" → ∃ b,
        s.getBackup o.ns o.backupSpec.parentBackupName = .ok b ∧ b.phase = backupPhaseCompleted ∧
          lookupOrEmpty b.meta.labels appInstanceLabelKey = o.name) :=
  ⟨fun ⟨a, b, c, d⟩ => ⟨a, b, c, d⟩, fun ⟨a, b, c, d⟩ => ⟨a, b, c, d⟩⟩

/-- `Validate` が通るのは、名前があり、policy が決まり、`Admitted` のときに限る。 -/
theorem validate_eq_ok_iff {s : Store} {o o' : CreateBackupOptions} :
    o.validate defaultKey retentionValid s = .ok o' ↔
      o.name ≠ "" ∧ o.settlePolicy defaultKey s = .ok o' ∧ Admitted retentionValid s o' := by
  unfold CreateBackupOptions.validate
  by_cases hn : o.name = ""
  · simp [hn]
  cases h1 : o.settlePolicy defaultKey s with
  | error e => simp [hn, h1]
  | ok o₁ =>
    have hsub : (o₁ = o' ∧ Admitted retentionValid s o') ↔
        (o₁ = o' ∧ Admitted retentionValid s o₁) :=
      ⟨fun ⟨h, a⟩ => ⟨h, h ▸ a⟩, fun ⟨h, a⟩ => ⟨h, h ▸ a⟩⟩
    simp only [hn, if_false, pure_eq_ok, ok_bind, ne_eq, not_false_eq_true, true_and,
      Except.ok.injEq]
    rw [hsub, admitted_iff]
    cases h2 : s.getBackupPolicy o₁.ns o₁.backupSpec.backupPolicyName with
    | error e => simp
    | ok p =>
      by_cases hm : o₁.backupSpec.backupMethod = ""
      · simp [hm]
      by_cases hr : o₁.backupSpec.retentionPeriod ≠ "" ∧
          retentionValid o₁.backupSpec.retentionPeriod = false
      · simp [hm, hr]
      have hr' : o₁.backupSpec.retentionPeriod ≠ "" →
          retentionValid o₁.backupSpec.retentionPeriod := by simpa using hr
      by_cases hpar : o₁.backupSpec.parentBackupName = ""
      · simp +contextual [hm, hr, hr', hpar]
      cases h3 : s.getBackup o₁.ns o₁.backupSpec.parentBackupName with
      | error e => simp [hm, hr, hpar]
      | ok b =>
        by_cases hph : b.phase = backupPhaseCompleted <;>
          by_cases hl : lookupOrEmpty b.meta.labels appInstanceLabelKey = o₁.name <;>
          simp +contextual [hm, hr, hr', hpar, hph, hl]

/-! ## API server の言葉で -/

/-- `Validate` が通ったときに API server について言えること。`o` は入力、`o'` は返す options。 -/
structure CreateAllowed (s : Store) (o o' : CreateBackupOptions) : Prop where
  named : o.name ≠ ""
  /-- options は policy の名前しか変わらない。 -/
  onlyPolicy : o' = { o with backupSpec := { o.backupSpec with
    backupPolicyName := o'.backupSpec.backupPolicyName } }
  policy : ∃ p ∈ s.backupPolicies, p.meta.key = ⟨o.ns, o'.backupSpec.backupPolicyName⟩
  /-- `--policy` を省いたときは cluster があり、policy はその label と既定の印を持つ唯一のもの。 -/
  defaultPolicy : o.backupSpec.backupPolicyName = "" →
    (∃ c ∈ s.clusters, c.meta.key = ⟨o.ns, o.name⟩) ∧
    ∃ p, clusterDefaultPolicies defaultKey s o = [p] ∧
      p.meta.key = ⟨o.ns, o'.backupSpec.backupPolicyName⟩ ∧
      p.meta.labels.lookup appInstanceLabelKey = some o.name
  method : o.backupSpec.backupMethod ≠ ""
  retention : o.backupSpec.retentionPeriod ≠ "" → retentionValid o.backupSpec.retentionPeriod = true
  /-- 名指した親の backup は namespace にあり、`Completed` で、cluster の label を持つ。 -/
  parent : o.backupSpec.parentBackupName ≠ "" → ∃ b ∈ s.backups,
    b.meta.key = ⟨o.ns, o.backupSpec.parentBackupName⟩ ∧ b.phase = backupPhaseCompleted ∧
      lookupOrEmpty b.meta.labels appInstanceLabelKey = o.name

/-- **作ってよいかの関門。** `Validate` が通れば `CreateAllowed` が成り立つ。 -/
theorem validate_gate {s : Store} {o o' : CreateBackupOptions}
    (h : o.validate defaultKey retentionValid s = .ok o') :
    CreateAllowed defaultKey retentionValid s o o' := by
  obtain ⟨hn, hset, ⟨p, hp⟩, hm, hr, hpar⟩ := (validate_eq_ok_iff defaultKey retentionValid).mp h
  obtain ⟨ho', hdef, -⟩ := settlePolicy_eq_ok defaultKey hset
  rw [ho'] at hp hm hr hpar
  refine ⟨hn, ho', ⟨p, (getFrom_eq_ok_iff s.backupPolicies_nodup).mp hp⟩, fun he => ?_, hm, hr,
    fun hpn => ?_⟩
  · obtain ⟨⟨c, hc⟩, q, hq, hqn⟩ := hdef he
    have hmem := mem_clusterDefaultPolicies defaultKey (hq ▸ List.mem_singleton_self q)
    exact ⟨⟨c, (getFrom_eq_ok_iff s.clusters_nodup).mp hc⟩, q, hq,
      by simp [ObjectMeta.key, hmem.2.1, hqn], hmem.2.2.1⟩
  · obtain ⟨b, hb, hph, hl⟩ := hpar hpn
    obtain ⟨hbm, hbk⟩ := (getFrom_eq_ok_iff s.backups_nodup).mp hb
    exact ⟨b, hbm, hbk, hph, hl⟩

/-- namespace `default` の cluster `mycluster` に既定の policy `mycluster-policy` と、
`Completed` の backup `parent1` がある。`othercluster` の policy `other-policy` もある。 -/
def sampleBackupStore : Store where
  clusters := [⟨⟨"mycluster", "default", [], []⟩⟩, ⟨⟨"othercluster", "default", [], []⟩⟩]
  backupPolicies :=
    [⟨⟨"mycluster-policy", "default", [(appInstanceLabelKey, "mycluster")],
        [("is-default-policy", "true")]⟩, ⟨none⟩⟩,
     ⟨⟨"other-policy", "default", [(appInstanceLabelKey, "othercluster")], []⟩, ⟨none⟩⟩]
  backups := [⟨⟨"parent1", "default", [(appInstanceLabelKey, "mycluster")], []⟩, "Completed"⟩]
  clusters_nodup := by decide
  backupPolicies_nodup := by decide
  backups_nodup := by decide

/-- `kbcli cluster backup mycluster --policy <policy> --method volume-snapshot --parent-backup parent1`。 -/
def sampleBackupOptions (policy : String) : CreateBackupOptions where
  name := "mycluster"
  ns := "default"
  backupSpec := ⟨"", policy, "volume-snapshot", "", "parent1"⟩
  clusterRef := ""
  opsType := ""
  opsRequestName := ""

theorem validate_gate_sample :
    (sampleBackupOptions "").validate "is-default-policy" (fun _ => true) sampleBackupStore =
        .ok (sampleBackupOptions "mycluster-policy") ∧
      CreateAllowed "is-default-policy" (fun _ => true) sampleBackupStore (sampleBackupOptions "")
        (sampleBackupOptions "mycluster-policy") :=
  ⟨rfl, validate_gate _ _ rfl⟩

/-! ## 他の cluster の policy -/

/-- `--policy` で `othercluster` の policy を名指しても、`mycluster` の backup は通る。 -/
theorem validate_accepts_foreign_policy :
    (sampleBackupOptions "other-policy").validate defaultKey retentionValid sampleBackupStore =
        .ok (sampleBackupOptions "other-policy") ∧
      ∀ p ∈ sampleBackupStore.backupPolicies, p.meta.name = "other-policy" →
        p.meta.labels.lookup appInstanceLabelKey ≠ some "mycluster" :=
  ⟨rfl, by decide⟩

end Kbcli.Cluster
