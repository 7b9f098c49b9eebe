import Kbcli.Template.MockClient
import Mathlib.Data.List.Nodup

/-!
# `mockClient` の二つの索引

nil のない列 `objs` から作った `mockClient` の二つの索引を、`objs` の言葉で書く。

* key の表は `lastByKey objs`: その key を持つ最後の object（`fromObjects_map_some`）。
* kind の表は `kindIndex objs`: その kind の object を順に、重複も込めて（`splitRuntimeObject_map_some`）。

`run_objects` と `run_kindObjectList` と合わせると、何を流した後でも二つの索引の中身が
分かる（`newMockClient_run`）。

## 食い違い

`List` が重複なく、`Get` が自分の key で返す object をちょうど返す（`IndexesAgree`）のは、
初めの列の key が重ならず、`AppendMockObjects` が新しい key を足さないときに限る
（`indexesAgree_run_iff`）。同じ key の object が二つあれば `List` は両方を返すが、`Get` は
後のものしか返さない。新しい key で足した object は `Get` で見えるが `List` には出ない。
-/

namespace Kbcli.Template

open Go

/-! ## 初めの列の言葉 -/

/-- 列のうち key が `key` の最後の object。 -/
def lastByKey (objs : List Object) (key : ObjectKey) : Option Object :=
  objs.reverse.find? (·.meta.key = key)

/-- 列のうち kind が `kind` の object。 -/
def ofKind (objs : List Object) (kind : String) : List Object :=
  objs.filter (·.kind = kind)

/-- その kind の object があるときだけ列を置く表。 -/
def kindIndex (objs : List Object) : GoMap String (List Object) :=
  fun kind => if ofKind objs kind = [] then none else some (ofKind objs kind)

theorem ofKind_append_singleton (objs : List Object) (obj : Object) (kind : String) :
    ofKind (objs ++ [obj]) kind = ofKind objs kind ++ if obj.kind = kind then [obj] else [] := by
  by_cases h : obj.kind = kind <;> simp [ofKind, h]

@[simp] theorem kindIndex_getD (objs : List Object) (kind : String) :
    (kindIndex objs kind).getD [] = ofKind objs kind := by
  unfold kindIndex
  split <;> simp_all

theorem lastByKey_append_singleton (objs : List Object) (obj : Object) (key : ObjectKey) :
    lastByKey (objs ++ [obj]) key = if obj.meta.key = key then some obj else lastByKey objs key := by
  by_cases h : obj.meta.key = key <;> simp [lastByKey, List.find?_cons, h]

theorem lastByKey_eq_some {objs : List Object} {key : ObjectKey} {obj : Object}
    (h : lastByKey objs key = some obj) : obj ∈ objs ∧ obj.meta.key = key := by
  have hm := List.mem_of_find?_eq_some h
  simpa [List.mem_reverse] using And.intro hm (List.find?_some h)

theorem lastByKey_eq_none {objs : List Object} {key : ObjectKey} :
    lastByKey objs key = none ↔ key ∉ objs.map (·.meta.key) := by
  simp [lastByKey]

/-- key が重ならなければ、列の object は自分の key で引かれる。 -/
theorem lastByKey_of_nodup {objs : List Object} (hnd : (objs.map (·.meta.key)).Nodup)
    {obj : Object} (hobj : obj ∈ objs) : lastByKey objs obj.meta.key = some obj := by
  induction objs using List.reverseRecOn with
  | nil => simp at hobj
  | append_singleton objs x ih =>
    rw [List.map_append, List.nodup_append] at hnd
    rw [lastByKey_append_singleton]
    rcases List.mem_append.mp hobj with h | h
    · have hne : x.meta.key ≠ obj.meta.key := fun he =>
        hnd.2.2 (List.mem_map_of_mem _ h) (by simp [he])
      rw [if_neg hne, ih hnd.1 h]
    · obtain rfl := List.mem_singleton.mp h
      simp

/-- 重複のない列で、どの object も自分の key で引かれるなら、key は重ならない。 -/
theorem nodup_of_lastByKey {objs : List Object} (hnd : objs.Nodup)
    (h : ∀ obj ∈ objs, lastByKey objs obj.meta.key = some obj) :
    (objs.map (·.meta.key)).Nodup := by
  induction objs using List.reverseRecOn with
  | nil => simp
  | append_singleton objs x ih =>
    rw [List.nodup_append] at hnd
    have hx : x ∉ objs := fun hx => hnd.2.2 hx (List.mem_singleton_self x)
    have hold : ∀ obj ∈ objs, x.meta.key ≠ obj.meta.key := fun obj hobj he => by
      have := h obj (List.mem_append_left _ hobj)
      rw [lastByKey_append_singleton, if_pos he, Option.some.injEq] at this
      exact hx (this ▸ hobj)
    rw [List.map_append, List.nodup_append]
    refine ⟨ih hnd.1 fun obj hobj => ?_, by simp, ?_⟩
    · have := h obj (List.mem_append_left _ hobj)
      rwa [lastByKey_append_singleton, if_neg (hold obj hobj)] at this
    · simp only [List.map_cons, List.map_nil, List.disjoint_singleton, List.mem_map, not_exists,
        not_and]
      exact fun obj hobj he => hold obj hobj he.symm

/-! ## 作った直後の索引 -/

/-- `fromObjects` は、その key を持つ最後の object を表にする。 -/
theorem fromObjects_map_some (objs : List Object) :
    fromObjects (objs.map some) = lastByKey objs := by
  induction objs using List.reverseRecOn with
  | nil => rfl
  | append_singleton objs obj ih =>
    funext key
    rw [fromObjects, List.map_append, List.foldl_append, ← fromObjects, ih, lastByKey_append_singleton]
    simp only [List.map_cons, List.map_nil, List.foldl_cons, List.foldl_nil, fromObjectsStep,
      Function.update_apply, eq_comm]

/-- `splitRuntimeObject` は、kind ごとにその kind の object を順に並べる。 -/
theorem splitRuntimeObject_map_some (objs : List Object) :
    splitRuntimeObject (objs.map some) = some (kindIndex objs) := by
  induction objs using List.reverseRecOn with
  | nil => rfl
  | append_singleton objs obj ih =>
    rw [splitRuntimeObject, List.map_append, List.foldlM_append, ← splitRuntimeObject, ih]
    simp only [List.map_cons, List.map_nil, List.foldlM_cons, List.foldlM_nil, splitStep,
      Option.some_bind, Option.bind_eq_bind, bind_pure, Option.some.injEq]
    funext kind
    by_cases hk : obj.kind = kind
    · subst hk
      rw [Function.update_same, kindIndex_getD]
      simp [kindIndex, ofKind_append_singleton]
    · simp only [Function.update_noteq (Ne.symm hk), kindIndex, ofKind_append_singleton, hk, if_false,
        List.append_nil]

/-- nil のない列からは必ず作れる。 -/
theorem newMockClient_map_some (objs : List Object) :
    newMockClient (objs.map some) =
      some { objects := lastByKey objs, kindObjectList := kindIndex objs, hander := none } := by
  simp [newMockClient, splitRuntimeObject_map_some, fromObjects_map_some]

/-- nil を一つでも含む列では、`fromObjects` は nil を飛ばすのに `splitRuntimeObject` が
panic する。 -/
theorem newMockClient_of_nil {objs : List (Option Object)} (h : none ∈ objs) :
    newMockClient objs = none := by
  obtain ⟨s, t, rfl⟩ := List.append_of_mem h
  cases hs : s.foldlM splitStep GoMap.empty <;>
    simp [newMockClient, splitRuntimeObject, hs, splitStep]

theorem newMockClient_of_nil_sample : none ∈ [(none : Option Object)] ∧ newMockClient [none] = none :=
  ⟨List.mem_singleton_self _, newMockClient_of_nil (List.mem_singleton_self _)⟩

/-! ## 何を流した後でも -/

/-- 初めの列と足した object から決まる key の表。 -/
def storedAfter (objs : List Object) (ms : List Mutation) : GoMap ObjectKey Object :=
  fun key => (lastByKey objs key).or ((appended ms).find? (·.meta.key = key))

/-- **何を流した後の索引。** nil のない列からは必ず作れて、状態を変える呼び出しをどう流しても、
key の表は `storedAfter`（初めの列でその key を持つ最後の object、なければ足した object で
最初のもの）で、`List` は初めの列のその kind の object を順に重複も込めて返す（なければ
渡した列のまま）。 -/
theorem newMockClient_run (objs : List Object) (ms : List Mutation) :
    ∃ m, newMockClient (objs.map some) = some m ∧ (m.run ms).objects = storedAfter objs ms ∧
      ∀ kind list, (m.run ms).list kind list =
        if ofKind objs kind = [] then list else ofKind objs kind := by
  refine ⟨_, newMockClient_map_some objs, funext fun key => run_objects _ ms key, fun kind list => ?_⟩
  simp only [MockClient.list, run_kindObjectList, kindIndex]
  by_cases h : ofKind objs kind = [] <;> simp [h]

/-- key の表の object は、どれも自分の key に置かれている。 -/
theorem storedAfter_key {objs : List Object} {ms : List Mutation} {key : ObjectKey} {obj : Object}
    (h : storedAfter objs ms key = some obj) : obj.meta.key = key := by
  unfold storedAfter at h
  cases hl : lastByKey objs key with
  | some o => rw [hl, Option.or_some, Option.some.injEq] at h; exact h ▸ (lastByKey_eq_some hl).2
  | none => rw [hl, Option.none_or] at h; simpa using List.find?_some h

/-- object が自分の key に置かれていれば、`Get` の namespace を空にした引き直しは、
自分の key で引いた object を返さない。 -/
theorem get_self_iff {m : MockClient}
    (hkey : ∀ key obj, m.objects key = some obj → obj.meta.key = key) {obj : Object} :
    m.get obj.meta.key = .ok obj ↔ m.objects obj.meta.key = some obj := by
  unfold MockClient.get
  constructor
  · intro h
    split at h
    · cases h; assumption
    · rename_i hnone
      split at h
      · rename_i hblank
        cases h
        have : obj.meta.key = { obj.meta.key with ns := "" } := hkey _ _ hblank
        rw [← this] at hblank
        exact absurd hblank (by simp [hnone])
      · cases h
  · intro h
    simp [h]

/-- 自分の Go の型の object に `Get` すれば panic せず、探した object がそのまま写る。 -/
theorem getInto_self_iff {m : MockClient} {key : ObjectKey} {obj : Object} :
    m.getInto key obj.goType = some (.ok obj) ↔ m.get key = .ok obj := by
  unfold MockClient.getInto setGetReturnedObject
  cases m.get key with
  | error e => simp
  | ok o => by_cases ho : o = obj <;> simp [ho]

/-- `meta.SetList` が通るのは、どの要素も list の要素の型を持つときに限る。 -/
theorem setListItems_eq_ok {itemType : String} {i : Nat} {objects : List Object} :
    setListItems itemType i objects = .ok () ↔ ∀ o ∈ objects, o.goType = itemType := by
  induction objects generalizing i with
  | nil => simp [setListItems]
  | cons o objects ih => by_cases h : o.goType = itemType <;> simp [setListItems, h, ih]

/-- kind の列の object がどれも要素の型を持てば、`List` は探した列を error なしに写す。 -/
theorem listInto_of_goType {m : MockClient} {kind itemType : String} (list : List Object)
    (h : ∀ o ∈ m.list kind [], o.goType = itemType) :
    m.listInto kind itemType list = .ok (m.list kind list) := by
  unfold MockClient.listInto MockClient.list setListReturnedObjects at *
  cases hk : m.kindObjectList kind with
  | none => rfl
  | some r => simp [hk, setListItems_eq_ok.mpr (by simpa [hk] using h), Except.map]

/-- `List` が重複なく、`Get` が自分の key で返す object のうちその kind のものを、
ちょうど返すこと。Go の呼び出しでは、`Get` は自分の型の object に（`getInto_self_iff`）、
`List` は要素の型が kind の object の型に合う list に（`listInto_of_goType`）呼んだもの。 -/
def IndexesAgree (m : MockClient) : Prop :=
  ∀ kind, (m.list kind []).Nodup ∧
    ∀ obj, obj ∈ m.list kind [] ↔ obj.kind = kind ∧ m.get obj.meta.key = .ok obj

/-- kind ごとの一致は、列全体の一致と同じ。 -/
theorem ofKind_agree_iff (objs : List Object) (stored : Object → Prop) :
    (∀ kind, (ofKind objs kind).Nodup ∧ ∀ obj, obj ∈ ofKind objs kind ↔ obj.kind = kind ∧ stored obj) ↔
      objs.Nodup ∧ ∀ obj, obj ∈ objs ↔ stored obj := by
  simp only [ofKind, List.mem_filter, decide_eq_true_eq]
  constructor
  · intro h
    refine ⟨List.nodup_iff_count_le_one.mpr fun obj => ?_, fun obj => ?_⟩
    · rw [← List.count_filter (p := fun o => decide (o.kind = obj.kind)) (by simp)]
      exact List.nodup_iff_count_le_one.mp (h obj.kind).1 obj
    · simpa using (h obj.kind).2 obj
  · rintro ⟨hnd, hs⟩ kind
    exact ⟨hnd.filter _, fun obj => by rw [hs]; exact and_comm⟩

/-- 初めの列の object がちょうど key の表に自分の key で置かれているのは、初めの key が
重ならず、足した object の key がどれも初めの列にあるときに限る。 -/
theorem storedAfter_self_iff (objs : List Object) (ms : List Mutation) :
    (objs.Nodup ∧ ∀ obj, obj ∈ objs ↔ storedAfter objs ms obj.meta.key = some obj) ↔
      (objs.map (·.meta.key)).Nodup ∧ ∀ obj ∈ appended ms, obj.meta.key ∈ objs.map (·.meta.key) := by
  constructor
  · rintro ⟨hnd, hs⟩
    have hlast : ∀ obj ∈ objs, lastByKey objs obj.meta.key = some obj := fun obj hobj => by
      cases hl : lastByKey objs obj.meta.key with
      | none => exact absurd (lastByKey_eq_none.mp hl) (not_not.mpr (List.mem_map_of_mem _ hobj))
      | some o =>
        have := (hs obj).mp hobj
        rwa [storedAfter, hl, Option.or_some] at this
    refine ⟨nodup_of_lastByKey hnd hlast, fun a ha => ?_⟩
    by_contra hk
    obtain ⟨a', ha'⟩ := Option.isSome_iff_exists.mp
      (List.find?_isSome.mpr ⟨a, ha, by simp⟩ : ((appended ms).find? (·.meta.key = a.meta.key)).isSome)
    have hkey : a'.meta.key = a.meta.key := by simpa using List.find?_some ha'
    have hstored : storedAfter objs ms a'.meta.key = some a' := by
      rw [storedAfter, hkey, lastByKey_eq_none.mpr hk, Option.none_or, ha']
    exact hk (hkey ▸ List.mem_map_of_mem _ ((hs a').mpr hstored))
  · rintro ⟨hk, happ⟩
    refine ⟨hk.of_map _, fun obj => ⟨fun hobj => ?_, fun h => ?_⟩⟩
    · rw [storedAfter, lastByKey_of_nodup hk hobj, Option.or_some]
    · unfold storedAfter at h
      cases hl : lastByKey objs obj.meta.key with
      | some o =>
        rw [hl, Option.or_some, Option.some.injEq] at h
        exact h ▸ (lastByKey_eq_some hl).1
      | none =>
        rw [hl, Option.none_or] at h
        exact absurd (happ obj (List.mem_of_find?_eq_some h)) (lastByKey_eq_none.mp hl)

/-- **二つの索引が食い違わないとき。** nil のない列から作った `mockClient` に状態を変える呼び出しを
どう流しても、`List` と `Get` が食い違わないのは、初めの列の key が重ならず、
`AppendMockObjects` に渡した object の key がどれも初めの列にあるときに限る。 -/
theorem indexesAgree_run_iff (objs : List Object) (ms : List Mutation) :
    ∃ m, newMockClient (objs.map some) = some m ∧
      (IndexesAgree (m.run ms) ↔ (objs.map (·.meta.key)).Nodup ∧
        ∀ obj ∈ appended ms, obj.meta.key ∈ objs.map (·.meta.key)) := by
  obtain ⟨m, hm, hobj, hlist⟩ := newMockClient_run objs ms
  refine ⟨m, hm, ?_⟩
  have hkey : ∀ key obj, (m.run ms).objects key = some obj → obj.meta.key = key :=
    fun _ _ h => storedAfter_key (hobj ▸ h)
  have hl : ∀ kind, (m.run ms).list kind [] = ofKind objs kind := fun kind => by
    rw [hlist]; split <;> simp_all
  simp only [IndexesAgree, hl, get_self_iff hkey, hobj]
  exact (ofKind_agree_iff objs _).trans (storedAfter_self_iff objs ms)

/-- namespace `default` の ConfigMap `cm` の版 `rev`。 -/
def configMapRev (rev : String) : Object :=
  ⟨"v1.ConfigMap", "ConfigMap", ⟨"cm", "default", [("rev", rev)], []⟩⟩

/-- 同じ key の ConfigMap が二つあると、`List` は両方を返すが、`Get` は後の版しか返さない。 -/
theorem newMockClient_duplicate_key :
    ∃ m, newMockClient ([configMapRev "1", configMapRev "2"].map some) = some m ∧
      ¬ IndexesAgree m := by
  refine ⟨_, newMockClient_map_some _, fun h => ?_⟩
  have hget := (((h "ConfigMap").2 (configMapRev "1")).mp (by decide)).2
  exact absurd (Except.ok.inj (hget.symm.trans rfl)) (by decide : configMapRev "1" ≠ configMapRev "2")

end Kbcli.Template
