import Kbcli.Cluster.EditApply

/-!
# 編集器の往復

`runWithEditor` が書き出した本文をそのまま保存すると、`applyChanges` は何も書かずに
"updated (no change)" と言う。ただし描いた行 `backupRepoName=s` が読み戻せる値に限る。

## 読み戻せない値

* `s` に `=` があると、行は三つ以上に割れて `invalid row` になる。
* `s` に改行があると、本文を改行で割ったときに行が二つに分かれる。
* `s` の最後が空白だと `TrimSpace` で落ち、`target` が `original` と違って `Update` が送られる。
* 引用符を落とした値が空でなく、その BackupRepo が見つからないと、update 関数が止める。

この四つを除けば往復する（`runEditBackupPolicy_roundTrip`）。

## 空にした本文

見出しは「空の file は編集をやめる」と書くが、`runEditBackupPolicy` にその分岐はない。
空の本文も、`#` と空行だけの本文も、読む行がないまま `applyChanges` に進む。policy は
変わらないが、`backupRepoName` を持つ policy では `original` が空でないので、変わらない
policy を `Update` で送る（`runEditBackupPolicy_blank_edit`）。

## 証明の形

本文は `addHeader` の四行、描いた行、最後の空行に割れる（`split_addHeader`）。
`#` の行と空行は飛ばされ、描いた行は止まらないので `applyRows_of_no_failure` が使え、
読んだ行を繋いだ `target` は描いた行を繋いだ `original` と同じ文字列になる。
-/

namespace Kbcli.Cluster

open Go

/-! ## 本文を行に割る -/

/-- `addHeader` の四行。 -/
def headerLines : List String :=
  ["# Please edit the object below. Lines beginning with a '#' will be ignored,",
   "# and an empty file will abort the edit. If an error occurs while saving this file will be",
   "# reopened with the relevant failures.", "#"]

theorem addHeader_eq (c : String) :
    addHeader c = join headerLines "\n" ++ "\n" ++ (c ++ "\n") := by
  rw [← String.append_assoc]
  rfl

theorem split_addHeader (c : String) :
    split (addHeader c) '\n' = headerLines ++ split c '\n' ++ [""] := by
  have hh : split (join headerLines "\n") '\n' = headerLines :=
    split_join (by decide) (by decide)
  rw [addHeader_eq, show ("\n" : String) = ⟨['\n']⟩ from rfl, split_append_cons, hh,
    ← String.append_empty (c ++ _), split_append_cons, split_empty, List.append_assoc]

/-- `complete` の表は、値があれば `backupRepoName=値` の一行を描く。 -/
theorem editorRows_editContent (dyn : Dynamic) (spec : BackupPolicySpec) :
    editorRows (editContent dyn) spec =
      (spec.backupRepoName.map ("backupRepoName=" ++ ·)).toList := by
  cases h : spec.backupRepoName <;> simp [editorRows, editContent, getValueWithJsonpath, h]

/-! ## 見出しの行 -/

theorem editRow_header : ∀ h ∈ headerLines ++ [""], editRow h = none := by decide

/-! ## 往復 -/

theorem editRow_headerLines : headerLines.filterMap editRow = [] := by decide

theorem editRow_empty : editRow "" = none := rfl

theorem lineCall_header : headerLines.filterMap lineCall = [] := by decide

/-- 編集器が返す行: 見出し、描いた行、最後の空行。 -/
theorem split_addHeader_render {dyn : Dynamic} {spec : BackupPolicySpec}
    (hs : ∀ s, spec.backupRepoName = some s → RoundTrips dyn s) :
    split (addHeader (join (editorRows (editContent dyn) spec) "\n")) '\n' =
      headerLines ++ (if spec.backupRepoName = none then [""] else
        (spec.backupRepoName.map ("backupRepoName=" ++ ·)).toList) ++ [""] := by
  rw [split_addHeader, editorRows_editContent]
  cases h : spec.backupRepoName with
  | none => rfl
  | some s =>
    have hnl : '\n' ∉ ("backupRepoName=" ++ s).data := by
      simp only [String.data_append, List.mem_append, not_or]
      exact ⟨by decide, (hs s h).2.1⟩
    simp only [Option.map_some', Option.toList_some, reduceCtorEq, if_false]
    rw [join_singleton, split_of_not_mem hnl]

/-- 止まる行がなく、`original` が読んだ行を繋いだものと同じなら、何も書かない。 -/
theorem applyChanges_no_change {r : EditRun}
    (hkm : r.o.editContentKeyMap = editKeyMap r.o.dynamic)
    (h : ∀ v ∈ r.o.values, ¬ RowFailure r.o.dynamic v)
    (heq : r.o.original = (rowsOf r.o.values).foldl (· ++ ·) r.o.target) :
    ((applyChanges r).1.effects, (applyChanges r).2) =
      (r.effects ++ r.o.values.filterMap lineCall ++ [.print "updated (no change)"], .ok ()) := by
  rw [applyChanges_of_no_failure hkm h]
  simp [EditRun.advance, heq]

/-- 見出しと最後の空行は飛ばされる。 -/
theorem header_skipped {dyn : Dynamic} {v : String} (h : v ∈ headerLines ∨ v = "") :
    ¬ RowFailure dyn v :=
  (skipped_row (editRow_header v (by simpa [or_comm] using h))).1

/-- 描いた行の部分。値がなければ空行、あれば `backupRepoName=値` の一行で、どれも止まらず、
読めば表の行に戻り、update 関数を値の分だけ呼ぶ。 -/
theorem drawn_rows {dyn : Dynamic} {spec : BackupPolicySpec}
    (hs : ∀ s, spec.backupRepoName = some s → RoundTrips dyn s) :
    let vs := if spec.backupRepoName = none then [""] else
      (spec.backupRepoName.map ("backupRepoName=" ++ ·)).toList
    (∀ v ∈ vs, ¬ RowFailure dyn v) ∧ vs.filterMap editRow = editorRows (editContent dyn) spec ∧
      vs.filterMap lineCall =
        (spec.backupRepoName.map fun s => Effect.call "backupRepoName" (trimQuotes s)).toList := by
  rw [editorRows_editContent]
  cases hrepo : spec.backupRepoName with
  | none => exact ⟨by simpa using header_skipped (.inr rfl), rfl, rfl⟩
  | some s =>
    obtain ⟨hnf, hcall, hrow⟩ := render_row (hs s hrepo)
    simp [hnf, hcall, hrow]

/-- **編集器の往復。** `--set` なしで `complete` した options について、編集器が書き出した
本文をそのまま返すなら、読み戻せる値を持つ policy には何も書かず、"updated (no change)" と
言って通る。update 関数は描いた行の値で一度だけ呼ばれる。 -/
theorem runEditBackupPolicy_roundTrip {f : Factory} {args : List String}
    {o : EditBackupPolicyOptions} (hc : complete f [] args = .ok o) {p : BackupPolicy}
    (hp : o.dynamic.getBackupPolicy ⟨o.ns, o.name⟩ = .ok p)
    (hs : ∀ s, p.spec.backupRepoName = some s → RoundTrips o.dynamic s) :
    runEditBackupPolicy (fun _ text => .ok text) o =
      ((p.spec.backupRepoName.map fun s => Effect.call "backupRepoName" (trimQuotes s)).toList ++
        [.print "updated (no change)"], .ok ()) := by
  obtain ⟨_, -, -, -, -, hec, hkm, horig, ht, hv, htest⟩ := complete_eq_ok hc
  obtain ⟨hnf, hrows, hcalls⟩ := drawn_rows hs
  rw [runEditBackupPolicy_editor hp hv htest]
  simp only [hec, split_addHeader_render hs, horig]
  refine (applyChanges_no_change hkm ?_ ?_).trans ?_ <;> simp only [ht]
  · intro v hv
    simp only [List.mem_append, List.mem_singleton] at hv
    rcases hv with (hv | hv) | hv
    · exact header_skipped (.inl hv)
    · exact hnf v hv
    · exact header_skipped (.inr hv)
  · simp [rowsOf, hrows, editRow_headerLines, editRow_empty]
  · simp [hcalls, lineCall_header, show lineCall "" = none from rfl]

theorem runEditBackupPolicy_roundTrip_sample :
    let p := samplePolicy (some "my-repo")
    let dyn := sampleDynamic p fun _ => true
    complete ⟨.ok "default", .ok dyn⟩ [] ["bp"] = .ok (sampleOptions dyn []) ∧
      dyn.getBackupPolicy ⟨"default", "bp"⟩ = .ok p ∧
      (∀ s, p.spec.backupRepoName = some s → RoundTrips dyn s) ∧
      runEditBackupPolicy (fun _ text => .ok text) (sampleOptions dyn []) =
        ((p.spec.backupRepoName.map fun s => Effect.call "backupRepoName" (trimQuotes s)).toList ++
          [.print "updated (no change)"], .ok ()) := by
  have hs : ∀ s, (samplePolicy (some "my-repo")).spec.backupRepoName = some s →
      RoundTrips (sampleDynamic (samplePolicy (some "my-repo")) fun _ => true) s := by
    intro s hs
    cases hs
    exact ⟨by decide, by decide, fun c hc => by cases hc; rfl, .inr rfl⟩
  exact ⟨rfl, rfl, hs, runEditBackupPolicy_roundTrip (complete_sample _ _) rfl hs⟩

/-- 消えた BackupRepo を指す policy では、本文をそのまま保存しても update 関数が止める。 -/
theorem runEditBackupPolicy_stale_repo :
    let p := samplePolicy (some "my-repo")
    runEditBackupPolicy (fun _ text => .ok text) (sampleOptions (sampleDynamic p fun _ => false) []) =
      ([.call "backupRepoName" "my-repo"],
        .error "backuprepos.dataprotection.kubeblocks.io \"my-repo\" not found") := rfl

/- `=` を含む値は形の崩れた行になり、最後が空白の値は trim されて `Update` が送られる。 -/
example : (runEditBackupPolicy (fun _ text => .ok text)
    (sampleOptions (sampleDynamic (samplePolicy (some "a=b")) fun _ => true) [])).2 =
      .error "invalid row: backupRepoName=a=b, format should be \"key=value\"" := rfl

example : runEditBackupPolicy (fun _ text => .ok text)
    (sampleOptions (sampleDynamic (samplePolicy (some "x ")) fun _ => true) []) =
      ([.call "backupRepoName" "x", .update (samplePolicy (some "x")), .print "updated"], .ok ()) :=
  rfl

/-! ## 空にした本文 -/

/-- 飛ばす行だけを読んでも、policy は変わらない。 -/
theorem settle_of_skipped (p : BackupPolicy) {vs : List String} (h : ∀ v ∈ vs, editRow v = none) :
    settle p vs = p := by
  have hnil : vs.filterMap lineValue = [] :=
    List.filterMap_eq_nil_iff.mpr fun v hv => by simp [lineValue, h v hv]
  simp [settle, hnil]

/-- **空にした本文でも編集は止まらない。** 見出しは空の file で編集をやめると言うが、
編集器が返した本文の行がどれも空行か `#` の行なら（空の本文も含む）、何も読まずに進み、
update 関数も呼ばず、policy は変わらない。それでも policy に `backupRepoName` があれば、
描いた行を繋いだ `original` は空でなく、空の `target` と違うので、変わらない policy を
`Update` で送り、通れば "updated" と言う。値がなければ "updated (no change)" と言う。 -/
theorem runEditBackupPolicy_blank_edit {f : Factory} {args : List String}
    {o : EditBackupPolicyOptions} (hc : complete f [] args = .ok o) {p : BackupPolicy}
    (hp : o.dynamic.getBackupPolicy ⟨o.ns, o.name⟩ = .ok p) {edited : String}
    (hblank : ∀ v ∈ split edited '\n', editRow v = none) :
    runEditBackupPolicy (fun _ _ => .ok edited) o =
      if p.spec.backupRepoName = none then ([.print "updated (no change)"], .ok ())
      else
        match o.dynamic.update p with
        | .error e => ([.update p], .error e)
        | .ok () => ([.update p, .print "updated"], .ok ()) := by
  obtain ⟨_, -, -, -, -, hec, hkm, horig, ht, hv, htest⟩ := complete_eq_ok hc
  rw [runEditBackupPolicy_editor hp hv htest]
  simp only [hec, horig]
  rw [applyChanges_of_no_failure hkm fun v hv => (skipped_row (hblank v hv)).1]
  have hrows : rowsOf (split edited '\n') = [] := List.filterMap_eq_nil_iff.mpr hblank
  have hcalls : (split edited '\n').filterMap lineCall = [] :=
    List.filterMap_eq_nil_iff.mpr fun v hv => (@skipped_row o.dynamic _ (hblank v hv)).2
  simp only [EditRun.advance, hrows, hcalls, settle_of_skipped p hblank, ht, List.foldl_nil,
    editorRows_editContent, List.nil_append, EditRun.emit_effects]
  cases hrepo : p.spec.backupRepoName with
  | none => rfl
  | some s =>
    have hne : ("backupRepoName=" ++ s) ≠ "" := fun h => by cases congrArg String.data h
    simp only [Option.map_some', Option.toList_some, List.foldl_cons, List.foldl_nil,
      String.empty_append, hne, if_false, reduceCtorEq]
    cases o.dynamic.update p <;> rfl

theorem runEditBackupPolicy_blank_edit_sample :
    let p := samplePolicy (some "my-repo")
    let dyn := sampleDynamic p fun _ => true
    complete ⟨.ok "default", .ok dyn⟩ [] ["bp"] = .ok (sampleOptions dyn []) ∧
      dyn.getBackupPolicy ⟨"default", "bp"⟩ = .ok p ∧
      (∀ v ∈ split "" '\n', editRow v = none) ∧
      runEditBackupPolicy (fun _ _ => .ok "") (sampleOptions dyn []) =
        ([.update p, .print "updated"], .ok ()) :=
  ⟨rfl, rfl, by decide, runEditBackupPolicy_blank_edit
    (complete_sample (sampleDynamic (samplePolicy (some "my-repo")) fun _ => true) [])
    (p := samplePolicy (some "my-repo")) rfl (by decide)⟩

end Kbcli.Cluster
