import Kbcli.Cluster.EditBackupPolicy

/-!
# `applyChanges` の読み方

`complete` の表の下で、`applyChanges` が一行をどう扱うかは次のどれかである。

* 飛ばす（空行か `#` で始まる行）。
* `backupRepoName=value` として update 関数を呼び、通る。
* 止まる（`RowFailure`）: `=` で二つに割れない、key が表にない、update 関数が error を返す。

止まらない行の列を読み終えた状態は `EditRun.advance` で書ける（`applyRows_of_no_failure`）。
そこから二つのことが出る。

* **書くかどうかは文字列で決まる**（`applyChanges_effects_of_ok`）。`Update` は
  `original` と、読んだ行を繋いだ文字列が違うときに送られ、policy が変わったかどうかは
  見ない。送るのは `backupRepoName` だけを最後の行の値にした policy である。
* **fail-fast**（`applyChanges_failFast`）。最初に止まる行までの update 関数だけが
  入力の順に一度ずつ呼ばれ、`Update` は送られない。

止まるかどうかによらず、行を読む間は `EditRun.Framed` が保たれる。そこから、`Update` は
高々一度で、送る object は読んだ policy と同じ metadata を持つ（`applyChanges_sends_read_object`）。
-/

namespace Kbcli.Cluster

open Go

/-! ## 一行の意味 -/

/-- `updateRepoName` が入れる値。空なら nil。 -/
def repoNameOf (val : String) : Option String := if val = "" then none else some val

theorem updateRepoName_of_lookup {dyn : Dynamic} {p : BackupPolicy} {val : String}
    (h : val = "" ∨ dyn.getBackupRepo val = .ok ()) :
    updateRepoName dyn p val = .ok { p with spec := { backupRepoName := repoNameOf val } } := by
  unfold updateRepoName repoNameOf
  by_cases hv : val = ""
  · simp [hv]
  · simp [hv, h.resolve_left hv]

/-- update 関数の失敗は policy によらない。 -/
theorem updateRepoName_error_iff {dyn : Dynamic} {p : BackupPolicy} {val e : String} :
    updateRepoName dyn p val = .error e ↔ val ≠ "" ∧ dyn.getBackupRepo val = .error e := by
  unfold updateRepoName
  by_cases hv : val = ""
  · simp [hv]
  · cases h : dyn.getBackupRepo val <;> simp [hv, h]

/-- 表の key を持つ行の値（引用符を落としたもの）。 -/
def lineValue (v : String) : Option String :=
  match (editRow v).bind splitKeyValue with
  | some (key, value) => if key = "backupRepoName" then some (trimQuotes value) else none
  | none => none

/-- 行が update 関数を呼ぶなら、その呼び出し。 -/
def lineCall (v : String) : Option Effect := (lineValue v).map (.call "backupRepoName")

/-- 飛ばさない行を trim したもの。`target` はこれを繋いでゆく。 -/
def rowsOf (vs : List String) : List String := vs.filterMap editRow

/-- 行の列を読んだあとの policy。最後の `backupRepoName` 行の値を入れ、空なら外す。
そのような行がなければ元のまま。 -/
def settle (p : BackupPolicy) (vs : List String) : BackupPolicy :=
  match (vs.filterMap lineValue).getLast? with
  | none => p
  | some val => { p with spec := { backupRepoName := repoNameOf val } }

theorem settle_append (p : BackupPolicy) (xs ys : List String) :
    settle (settle p xs) ys = settle p (xs ++ ys) := by
  unfold settle
  rw [List.filterMap_append, List.getLast?_append]
  cases (ys.filterMap lineValue).getLast? <;> cases (xs.filterMap lineValue).getLast? <;> rfl

/-- 一行が `applyChanges` を止める三つの形。表は `complete` が組んだもの。 -/
inductive RowFailure (dyn : Dynamic) (v : String) : Prop
  /-- `=` でちょうど二つに割れない。 -/
  | invalidRow {row : String} : editRow v = some row → splitKeyValue row = none →
      RowFailure dyn v
  /-- key が表にない。 -/
  | invalidKey {row key value : String} : editRow v = some row →
      splitKeyValue row = some (key, value) → key ≠ "backupRepoName" → RowFailure dyn v
  /-- update 関数が error を返す。 -/
  | updateFailed {row value e : String} {p : BackupPolicy} : editRow v = some row →
      splitKeyValue row = some ("backupRepoName", value) →
      updateRepoName dyn p (trimQuotes value) = .error e → RowFailure dyn v

/-! ## 止まらない行 -/

/-- 飛ばす行は止まらず、update 関数も呼ばない。 -/
theorem skipped_row {dyn : Dynamic} {v : String} (h : editRow v = none) :
    ¬ RowFailure dyn v ∧ lineCall v = none := by
  refine ⟨fun hf => ?_, by simp [lineCall, lineValue, h]⟩
  cases hf <;> simp_all

/-- 描いた行 `backupRepoName=s` が読み戻せる値。 -/
def RoundTrips (dyn : Dynamic) (s : String) : Prop :=
  '=' ∉ s.data ∧ '\n' ∉ s.data ∧ (∀ c, s.data.getLast? = some c → isSpace c = false) ∧
    (trimQuotes s = "" ∨ dyn.getBackupRepo (trimQuotes s) = .ok ())

/-- 描いた行は trim しても変わらず、`#` でも空でもない。 -/
theorem editRow_render {s : String} (hs : ∀ c, s.data.getLast? = some c → isSpace c = false) :
    editRow ("backupRepoName=" ++ s) = some ("backupRepoName=" ++ s) := by
  have htrim : trimSpace ("backupRepoName=" ++ s) = "backupRepoName=" ++ s := by
    refine congrArg String.mk (trimBy_of_ends (fun c hc => ?_) (fun c hc => ?_))
    · simp only [String.data_append, List.append_assoc] at hc
      cases hc; rfl
    · simp only [String.data_append, List.getLast?_append] at hc
      cases hl : s.data.getLast? with
      | none => simp [hl] at hc; subst hc; rfl
      | some d => simp [hl] at hc; exact hc ▸ hs d hl
  have hp : hasPrefix ("backupRepoName=" ++ s) "#" = false := rfl
  have hne : ("backupRepoName=" ++ s == "") = false :=
    beq_false_of_ne fun h => by cases congrArg String.data h
  simp only [editRow, htrim, hp, hne, Bool.or_false, Bool.false_eq_true, ↓reduceIte]

/-- 描いた行は `=` でちょうど二つに割れる。 -/
theorem splitKeyValue_render {s : String} (hs : '=' ∉ s.data) :
    splitKeyValue ("backupRepoName=" ++ s) = some ("backupRepoName", s) := by
  rw [splitKeyValue, show "backupRepoName=" ++ s = "backupRepoName" ++ ⟨['=']⟩ ++ s from rfl,
    split_append_cons, split_of_not_mem hs, split_of_not_mem (by decide)]
  rfl

/-- 読み戻せる値を描いた行は止まらず、引用符を落とした値で update 関数を呼ぶ。 -/
theorem render_row {dyn : Dynamic} {s : String} (hs : RoundTrips dyn s) :
    ¬ RowFailure dyn ("backupRepoName=" ++ s) ∧
      lineCall ("backupRepoName=" ++ s) = some (.call "backupRepoName" (trimQuotes s)) ∧
      editRow ("backupRepoName=" ++ s) = some ("backupRepoName=" ++ s) := by
  obtain ⟨heq, -, hsp, hlook⟩ := hs
  have he := editRow_render hsp
  have hk := splitKeyValue_render heq
  refine ⟨fun hf => ?_, by simp [lineCall, lineValue, he, hk], he⟩
  cases hf with
  | invalidRow he' hs' => simp_all
  | invalidKey he' hs' hk' => simp_all
  | updateFailed he' hs' hu =>
    rw [he] at he'
    cases he'
    rw [hk] at hs'
    cases hs'
    obtain ⟨hne, hl⟩ := updateRepoName_error_iff.mp hu
    rcases hlook with h | h
    · exact hne h
    · rw [h] at hl; cases hl

/-! ## 止まらない行の列 -/

/-- 止まらない行の列 `vs` を読み終えた状態。 -/
def EditRun.advance (r : EditRun) (vs : List String) : EditRun where
  o := { r.o with target := (rowsOf vs).foldl (· ++ ·) r.o.target }
  policy := settle r.policy vs
  effects := r.effects ++ vs.filterMap lineCall

theorem EditRun.advance_advance (r : EditRun) (xs ys : List String) :
    (r.advance xs).advance ys = r.advance (xs ++ ys) := by
  simp [EditRun.advance, rowsOf, settle_append]

variable {r : EditRun} {v : String}

/-- 止まらない一行。 -/
theorem applyRow_of_not_failure (hkm : r.o.editContentKeyMap = editKeyMap r.o.dynamic)
    (h : ¬ RowFailure r.o.dynamic v) : applyRow r v = (r.advance [v], .ok ()) := by
  cases he : editRow v with
  | none =>
    simp [applyRow, he, EditRun.advance, rowsOf, settle, lineCall, lineValue]
  | some row =>
    cases hs : splitKeyValue row with
    | none => exact absurd (RowFailure.invalidRow he hs) h
    | some kv =>
      obtain ⟨key, value⟩ := kv
      by_cases hk : key = "backupRepoName"
      · subst hk
        have hu : updateRepoName r.o.dynamic r.policy (trimQuotes value) =
            .ok { r.policy with spec := { backupRepoName := repoNameOf (trimQuotes value) } } := by
          refine updateRepoName_of_lookup (or_iff_not_imp_left.mpr fun hv => ?_)
          cases hl : r.o.dynamic.getBackupRepo (trimQuotes value) with
          | ok => rfl
          | error e => exact absurd (RowFailure.updateFailed he hs
              (updateRepoName_error_iff.mpr ⟨hv, hl⟩) (p := r.policy)) h
        simp [applyRow, he, hs, hkm, editKeyMap, hu, EditRun.advance, rowsOf, settle, lineCall,
          lineValue, EditRun.emit]
      · exact absurd (RowFailure.invalidKey he hs hk) h

/-- **止まらない行の列を読み終える。** -/
theorem applyRows_of_no_failure (hkm : r.o.editContentKeyMap = editKeyMap r.o.dynamic)
    {vs : List String} (h : ∀ v ∈ vs, ¬ RowFailure r.o.dynamic v) :
    applyRows r vs = (r.advance vs, .ok ()) := by
  induction vs generalizing r with
  | nil => simp [applyRows, EditRun.advance, rowsOf, settle]
  | cons v vs ih =>
    rw [applyRows, applyRow_of_not_failure hkm (h v (List.mem_cons_self v vs))]
    simp only
    rw [ih (r := r.advance [v]) hkm (fun w hw => h w (List.mem_cons_of_mem v hw)),
      EditRun.advance_advance]
    rfl

/-! ## 止まる行 -/

/-- 止まる一行。update 関数を呼ぶのは三つめの形のときだけで、policy は変わらない。 -/
theorem applyRow_of_failure (hkm : r.o.editContentKeyMap = editKeyMap r.o.dynamic)
    (h : RowFailure r.o.dynamic v) :
    (∃ e, (applyRow r v).2 = .error e) ∧
      (applyRow r v).1.effects = r.effects ++ (lineCall v).toList ∧
      (applyRow r v).1.policy = r.policy := by
  cases h with
  | invalidRow he hs =>
    simp [applyRow, he, hs, lineCall, lineValue]
  | invalidKey he hs hk =>
    simp [applyRow, he, hs, hkm, editKeyMap, Function.update_apply, hk, lineCall, lineValue]
  | updateFailed he hs hu =>
    have hu' := (updateRepoName_error_iff (p := r.policy)).mpr (updateRepoName_error_iff.mp hu)
    simp [applyRow, he, hs, hkm, editKeyMap, hu', lineCall, lineValue]

/-- 通った読みには止まる行がない。 -/
theorem no_failure_of_applyRows (hkm : r.o.editContentKeyMap = editKeyMap r.o.dynamic)
    {vs : List String} (h : (applyRows r vs).2 = .ok ()) :
    ∀ v ∈ vs, ¬ RowFailure r.o.dynamic v := by
  induction vs generalizing r with
  | nil => simp
  | cons v vs ih =>
    by_cases hv : RowFailure r.o.dynamic v
    · obtain ⟨⟨e, he⟩, -⟩ := applyRow_of_failure hkm hv
      rw [applyRows] at h
      revert h he
      rcases applyRow r v with ⟨r', _ | _⟩ <;> simp
    · rw [applyRows, applyRow_of_not_failure hkm hv] at h
      exact List.forall_mem_cons.mpr ⟨hv, ih (r := r.advance [v]) hkm h⟩

/-- **最初に止まる行で止まる。** それより前の update 関数は一度ずつ順に呼ばれ、止まる行の
関数は、それが止めたときにだけ呼ばれている。 -/
theorem applyRows_of_first_failure (hkm : r.o.editContentKeyMap = editKeyMap r.o.dynamic)
    {pre post : List String} {bad : String} (hpre : ∀ v ∈ pre, ¬ RowFailure r.o.dynamic v)
    (hbad : RowFailure r.o.dynamic bad) :
    (∃ e, (applyRows r (pre ++ bad :: post)).2 = .error e) ∧
      (applyRows r (pre ++ bad :: post)).1.effects =
        r.effects ++ (pre ++ [bad]).filterMap lineCall := by
  rw [applyRows_append, applyRows_of_no_failure hkm hpre]
  simp only [applyRows]
  have hkm' : (r.advance pre).o.editContentKeyMap = editKeyMap (r.advance pre).o.dynamic := hkm
  obtain ⟨⟨e, he⟩, heff, -⟩ := applyRow_of_failure hkm' hbad
  generalize applyRow (r.advance pre) bad = R at he heff ⊢
  obtain ⟨r', res⟩ := R
  simp only at he heff ⊢
  subst he
  refine ⟨⟨e, rfl⟩, ?_⟩
  rw [heff, List.filterMap_append, EditRun.advance, List.append_assoc, List.filterMap_cons,
    List.filterMap_nil]
  cases lineCall bad <;> rfl

/-! ## 小さな入力 -/

/-- 名前 `bp` の policy。`backupRepoName` だけを変えて使う。 -/
def samplePolicy (repo : Option String) : BackupPolicy :=
  { meta := { name := "bp", ns := "default", labels := [], annotations := [] },
    spec := { backupRepoName := repo } }

/-- policy `p` を返し、BackupRepo の有無を `known` で答え、`Update` を受け付ける API。 -/
def sampleDynamic (p : BackupPolicy) (known : String → Bool) : Dynamic where
  getBackupPolicy _ := .ok p
  getBackupRepo name :=
    if known name then .ok ()
    else .error ("backuprepos.dataprotection.kubeblocks.io \"" ++ name ++ "\" not found")
  update _ := .ok ()

/-- `complete` が `bp` について組む options。 -/
def sampleOptions (dyn : Dynamic) (values : List String) : EditBackupPolicyOptions :=
  { ns := "default", name := "bp", dynamic := dyn, editContent := editContent dyn,
    editContentKeyMap := editKeyMap dyn, original := "", target := "", values, isTest := false }

theorem complete_sample (dyn : Dynamic) (values : List String) :
    complete ⟨.ok "default", .ok dyn⟩ values ["bp"] = .ok (sampleOptions dyn values) := rfl

/-! ## applyChanges -/

/-- `applyChanges` が通れば、行の読みも通っている。 -/
theorem applyRows_ok_of_applyChanges {r : EditRun} (h : (applyChanges r).2 = .ok ()) :
    (applyRows r r.o.values).2 = .ok () := by
  unfold applyChanges at h
  generalize applyRows r r.o.values = R at h ⊢
  obtain ⟨r', _ | _⟩ := R
  · simp at h
  · rfl

/-- 止まる行がなければ、`applyChanges` は行を読み終えた状態で文字列を比べる。 -/
theorem applyChanges_of_no_failure {r : EditRun}
    (hkm : r.o.editContentKeyMap = editKeyMap r.o.dynamic)
    (h : ∀ v ∈ r.o.values, ¬ RowFailure r.o.dynamic v) :
    applyChanges r =
      let r' := r.advance r.o.values
      if r'.o.original = r'.o.target then (r'.emit (.print "updated (no change)"), .ok ())
      else
        match r.o.dynamic.update r'.policy with
        | .error e => (r'.emit (.update r'.policy), .error e)
        | .ok () => ((r'.emit (.update r'.policy)).emit (.print "updated"), .ok ()) := by
  rw [applyChanges, applyRows_of_no_failure hkm h]
  rfl

/-- **書くかどうかは文字列で決まる。** 通った `applyChanges` の作用は、行ごとの update 関数の
呼び出しに続けて、`original` と読んだ行を繋いだ文字列が同じなら "updated (no change)"、
違えば `settle` した policy の `Update` と "updated" である。policy そのものは比べない。 -/
theorem applyChanges_effects_of_ok {o : EditBackupPolicyOptions}
    (hkm : o.editContentKeyMap = editKeyMap o.dynamic) (ht : o.target = "") {p : BackupPolicy}
    (hok : (applyChanges ⟨o, p, []⟩).2 = .ok ()) :
    (applyChanges ⟨o, p, []⟩).1.effects = o.values.filterMap lineCall ++
      if o.original = String.join (rowsOf o.values) then [.print "updated (no change)"]
      else [.update (settle p o.values), .print "updated"] := by
  have hrun := applyChanges_of_no_failure (r := ⟨o, p, []⟩) hkm
    (no_failure_of_applyRows hkm (applyRows_ok_of_applyChanges hok))
  have htarget : (rowsOf o.values).foldl (· ++ ·) o.target = String.join (rowsOf o.values) := by
    rw [ht]; rfl
  simp only [hrun, EditRun.advance, htarget] at hok ⊢
  split
  · simp [*]
  · next hne =>
    simp only [hne, if_false] at hok ⊢
    revert hok
    split <;> simp

theorem applyChanges_effects_of_ok_sample :
    let p := samplePolicy (some "x")
    let o := sampleOptions (sampleDynamic p fun _ => true) ["backupRepoName=y"]
    o.editContentKeyMap = editKeyMap o.dynamic ∧ o.target = "" ∧
      (applyChanges ⟨o, p, []⟩).2 = .ok () ∧
      (applyChanges ⟨o, p, []⟩).1.effects = o.values.filterMap lineCall ++
        if o.original = String.join (rowsOf o.values) then [.print "updated (no change)"]
        else [.update (settle p o.values), .print "updated"] :=
  ⟨rfl, rfl, rfl, applyChanges_effects_of_ok rfl rfl rfl⟩

/-- `--set backupRepoName=x` を、すでに `x` を持つ policy に当てる。policy は変わらないのに
`Update` が送られる。 -/
theorem applyChanges_set_rewrites_unchanged :
    let p := samplePolicy (some "x")
    let r := applyChanges ⟨sampleOptions (sampleDynamic p fun _ => true) ["backupRepoName=x"], p, []⟩
    r.2 = .ok () ∧ r.1.policy = p ∧
      r.1.effects = [.call "backupRepoName" "x", .update p, .print "updated"] :=
  ⟨rfl, rfl, rfl⟩

/-- **fail-fast。** 最初に止まる行 `bad` の前がどれも止まらなければ、`applyChanges` は error を
返し、`Update` を送らない。呼ばれた update 関数は `bad` までの行のもので、入力の順に一度ずつ
である。`bad` 自身の関数は、それが error を返して止めたときにだけ入る。 -/
theorem applyChanges_failFast {o : EditBackupPolicyOptions}
    (hkm : o.editContentKeyMap = editKeyMap o.dynamic) {p : BackupPolicy}
    {pre post : List String} {bad : String} (hv : o.values = pre ++ bad :: post)
    (hpre : ∀ v ∈ pre, ¬ RowFailure o.dynamic v) (hbad : RowFailure o.dynamic bad) :
    (∃ e, (applyChanges ⟨o, p, []⟩).2 = .error e) ∧
      (applyChanges ⟨o, p, []⟩).1.effects = (pre ++ [bad]).filterMap lineCall := by
  obtain ⟨⟨e, he⟩, heff⟩ : (∃ e, (applyRows ⟨o, p, []⟩ (pre ++ bad :: post)).2 = .error e) ∧ _ :=
    applyRows_of_first_failure hkm hpre hbad
  unfold applyChanges
  simp only [hv]
  generalize applyRows _ _ = R at he heff ⊢
  obtain ⟨r', res⟩ := R
  simp only at he heff
  subst he
  exact ⟨⟨e, rfl⟩, heff⟩

/-- 二行目で repo が見つからない。一行目の関数と二行目の関数が呼ばれ、三行目は読まれない。 -/
theorem applyChanges_failFast_sample :
    let p := samplePolicy none
    let o := sampleOptions (sampleDynamic p fun n => n == "a")
      ["backupRepoName=a", "backupRepoName=gone", "key=b"]
    o.editContentKeyMap = editKeyMap o.dynamic ∧
      o.values = ["backupRepoName=a"] ++ "backupRepoName=gone" :: ["key=b"] ∧
      (∀ v ∈ ["backupRepoName=a"], ¬ RowFailure o.dynamic v) ∧
      RowFailure o.dynamic "backupRepoName=gone" ∧
      ((∃ e, (applyChanges ⟨o, p, []⟩).2 = .error e) ∧
        (applyChanges ⟨o, p, []⟩).1.effects =
          (["backupRepoName=a"] ++ ["backupRepoName=gone"]).filterMap lineCall) := by
  have hpre : ∀ v ∈ ["backupRepoName=a"],
      ¬ RowFailure (sampleDynamic (samplePolicy none) fun n => n == "a") v := by
    intro v hv
    rw [List.mem_singleton.mp hv]
    exact (render_row (s := "a") ⟨by decide, by decide, fun c hc => by cases hc; rfl, .inr rfl⟩).1
  have hbad : RowFailure (sampleDynamic (samplePolicy none) fun n => n == "a")
      "backupRepoName=gone" :=
    RowFailure.updateFailed (p := samplePolicy none) rfl rfl rfl
  exact ⟨rfl, rfl, hpre, hbad, applyChanges_failFast rfl rfl hpre hbad⟩

/-- 見つからない repo を名指す一行だけを読む。前に行はないが、その行の update 関数は
呼ばれている。 -/
theorem applyChanges_failing_row_called :
    let p := samplePolicy none
    let r := applyChanges ⟨sampleOptions (sampleDynamic p fun _ => false)
      ["backupRepoName=gone"], p, []⟩
    r.2 = .error "backuprepos.dataprotection.kubeblocks.io \"gone\" not found" ∧
      r.1.effects = [.call "backupRepoName" "gone"] :=
  ⟨rfl, rfl⟩

/-! ## 送る object -/

/-- 一行を読んでも、options は `target` しか変わらない。 -/
theorem applyRow_o (r : EditRun) (v : String) :
    (applyRow r v).1.o = { r.o with target := (applyRow r v).1.o.target } := by
  unfold applyRow
  split
  · rfl
  · split
    · rfl
    · dsimp only
      split
      · rfl
      · split <;> rfl

theorem settle_meta (p : BackupPolicy) (vs : List String) : (settle p vs).meta = p.meta := by
  unfold settle
  split <;> rfl

/-- `Update` の作用か。 -/
def Effect.isUpdate : Effect → Bool
  | .update _ => true
  | _ => false

theorem lineCall_isUpdate {v : String} {e : Effect} (h : lineCall v = some e) :
    e.isUpdate = false := by
  simp only [lineCall, Option.map_eq_some'] at h
  obtain ⟨_, -, rfl⟩ := h
  rfl

/-- 行を読む間に保たれること: 表は `complete` のもの、policy の metadata は `p` のまま、
`Update` はまだ送っていない。 -/
structure EditRun.Framed (p : BackupPolicy) (r : EditRun) : Prop where
  keyMap : r.o.editContentKeyMap = editKeyMap r.o.dynamic
  meta : r.policy.meta = p.meta
  noUpdate : ∀ e ∈ r.effects, e.isUpdate = false

/-- 一行を読んでも `Framed` は保たれる。 -/
theorem framed_applyRow {p : BackupPolicy} (h : r.Framed p) : (applyRow r v).1.Framed p := by
  have hkm : (applyRow r v).1.o.editContentKeyMap = editKeyMap (applyRow r v).1.o.dynamic := by
    rw [applyRow_o]
    exact h.keyMap
  by_cases hf : RowFailure r.o.dynamic v
  · obtain ⟨-, heff, hpol⟩ := applyRow_of_failure h.keyMap hf
    refine ⟨hkm, hpol ▸ h.meta, ?_⟩
    rw [heff]
    intro e he
    rcases List.mem_append.mp he with he | he
    · exact h.noUpdate e he
    · exact lineCall_isUpdate (Option.mem_toList.mp he)
  · rw [applyRow_of_not_failure h.keyMap hf] at hkm ⊢
    refine ⟨hkm, (settle_meta _ _).trans h.meta, fun e he => ?_⟩
    rcases List.mem_append.mp he with he | he
    · exact h.noUpdate e he
    · obtain ⟨w, -, hw⟩ := List.mem_filterMap.mp he
      exact lineCall_isUpdate hw

/-- 行の列をどこまで読んでも `Framed` は保たれる。 -/
theorem framed_applyRows {p : BackupPolicy} (h : r.Framed p) (vs : List String) :
    (applyRows r vs).1.Framed p := by
  induction vs generalizing r with
  | nil => exact h
  | cons v vs ih =>
    have h1 := framed_applyRow (v := v) h
    unfold applyRows
    split <;> rename_i heq <;> rw [heq] at h1
    · exact ih h1
    · exact h1

/-- **送るのは読んだ object。** どの行の列を読んでも、`applyChanges` の手元の policy も
`Update` で送る policy も、読んだ policy と同じ metadata（名前、namespace、label、
annotation）を持ち、`Update` は高々一度しか送られない。 -/
theorem applyChanges_sends_read_object {o : EditBackupPolicyOptions}
    (hkm : o.editContentKeyMap = editKeyMap o.dynamic) (p : BackupPolicy) :
    (applyChanges ⟨o, p, []⟩).1.policy.meta = p.meta ∧
      (∀ q, Effect.update q ∈ (applyChanges ⟨o, p, []⟩).1.effects → q.meta = p.meta) ∧
      ((applyChanges ⟨o, p, []⟩).1.effects.filter Effect.isUpdate).length ≤ 1 := by
  have h := framed_applyRows (r := ⟨o, p, []⟩) ⟨hkm, rfl, by simp⟩ o.values
  have hnone : ∀ q, Effect.update q ∉ (applyRows ⟨o, p, []⟩ o.values).1.effects :=
    fun q hq => by simpa [Effect.isUpdate] using h.noUpdate _ hq
  have hfilter : ((applyRows ⟨o, p, []⟩ o.values).1.effects.filter Effect.isUpdate) = [] :=
    List.filter_eq_nil_iff.mpr fun e he => by simp [h.noUpdate e he]
  unfold applyChanges
  generalize applyRows ⟨o, p, []⟩ o.values = R at h hnone hfilter ⊢
  obtain ⟨r', res⟩ := R
  simp only at h hnone hfilter ⊢
  rcases res with e | ⟨⟩
  · exact ⟨h.meta, fun q hq => absurd hq (hnone q), by simp [hfilter]⟩
  · dsimp only
    split
    · refine ⟨h.meta, fun q hq => ?_, by simp [hfilter, Effect.isUpdate]⟩
      simp only [EditRun.emit_effects, List.mem_append, List.mem_singleton, reduceCtorEq,
        or_false] at hq
      exact absurd hq (hnone q)
    · have hq : ∀ q, Effect.update q ∈ r'.effects ++ [.update r'.policy] → q.meta = p.meta :=
        fun q hq => by
          rcases List.mem_append.mp hq with hq | hq
          · exact absurd hq (hnone q)
          · obtain rfl : q = r'.policy := by simpa using hq
            exact h.meta
      split <;> exact ⟨h.meta, by simpa using hq, by simp [hfilter, Effect.isUpdate]⟩

theorem applyChanges_sends_read_object_sample :
    let p := samplePolicy (some "x")
    let o := sampleOptions (sampleDynamic p fun _ => true) ["backupRepoName=y", "# note"]
    o.editContentKeyMap = editKeyMap o.dynamic ∧
      ((applyChanges ⟨o, p, []⟩).1.policy.meta = p.meta ∧
        (∀ q, Effect.update q ∈ (applyChanges ⟨o, p, []⟩).1.effects → q.meta = p.meta) ∧
        ((applyChanges ⟨o, p, []⟩).1.effects.filter Effect.isUpdate).length ≤ 1) :=
  ⟨rfl, applyChanges_sends_read_object rfl _⟩

end Kbcli.Cluster
