import Kbcli.Template.MockIndexes

/-!
# `mockClient` への呼び出しの列

`mockClient` は `client.Client` を実装し、offline render はそれに `Get`、`List`、`Create`、
`Delete`、`Update`、`Patch`、`DeleteAllOf` を好きな順に呼ぶ。状態を変えるのは
`SetResourceHandler` と `AppendMockObjects` で、直に呼ばれるか、`Create` の handler の中で
呼ばれる。`Status`、`SubResource`、`Scheme`、`RESTMapper`、`GroupVersionKindFor`、
`IsObjectNamespaced` は "implement me" で panic する。

呼び出しを `Call` にまとめ、その列を `MockClient.exec` で流す。`exec` は答えのほかに、
流れた `Mutation` の列を handler の中のものも込めて集める。

1. 一つの呼び出しは、その呼び出しが行う `Mutation` を流した状態に移る。`Create` のほかは
   自分自身の `Mutation` しか流さない（`call_mutations`）。panic するのは、実装のない関数、
   Go の型の違う object への `Get`、nil の matcher に来るか、nil の `Handler` や panic する
   handler を呼ぶ `Create` に限る（`call_eq_none_iff`）。
2. 列についての帰納法で、nil のない列から作った mock は、どの時点でも、それまでに流れた
   `Mutation` の列だけで決まる `stateAfter` にあり、次の呼び出しは 1. のとおりに動く
   （`exec_stateAfter`）。
3. `Delete`、`Update`、`Patch`、`DeleteAllOf` は何もせずに返るので、列から一つ除いても、
   ほかの呼び出しの答えも最後の状態も変わらない（`exec_erase_write`）。消したはずの object も
   後の `Get` で返る。
-/

namespace Kbcli.Template

/-- `mockClient` への呼び出し。`Get` は写す先の object の Go の型を、`List` は list の kind と
要素の Go の型を受ける。 -/
inductive Call
  | get (key : ObjectKey) (outType : String)
  | list (kind itemType : String) (list : List Object)
  | create (obj : Object)
  | delete (obj : Object)
  | update (obj : Object)
  | patch (obj : Object)
  | deleteAllOf (obj : Object)
  | setResourceHandler (h : Option ResourceHandler)
  | appendMockObjects (obj : Object)
  /-- "implement me" で panic する `Status`、`SubResource`、`Scheme`、`RESTMapper`、
  `GroupVersionKindFor`、`IsObjectNamespaced`。 -/
  | unimplemented (name : String)

/-- 呼び出しの答え。 -/
inductive Response
  /-- `Get` が写した object か、その error。 -/
  | got (r : Except String Object)
  /-- `List` の後の list か、`meta.SetList` の error。 -/
  | listed (r : Except String (List Object))
  /-- 書き込みの `error`。 -/
  | returned (r : Except String Unit)
  /-- 値を返さない呼び出し。 -/
  | done

/-- 呼び出し一つ。mock に対して行われる `Mutation` と答え。`none` は panic。`DeleteAllOf` は
`cfgcore.MakeError("not support")`。 -/
def MockClient.call (m : MockClient) : Call → Option (List Mutation × Response)
  | .get key outType => (m.getInto key outType).map fun r => ([], .got r)
  | .list kind itemType list => some ([], .listed (m.listInto kind itemType list))
  | .create obj => (m.create obj).map fun p => (p.1, .returned p.2)
  | .delete _ | .update _ | .patch _ => some ([], .returned (.ok ()))
  | .deleteAllOf _ => some ([], .returned (.error "not support"))
  | .setResourceHandler h => some ([.setResourceHandler h], .done)
  | .appendMockObjects obj => some ([.appendMockObjects obj], .done)
  | .unimplemented _ => none

/-- 呼び出しを順に流し、流れた `Mutation` と答えを順に集める。panic すればそこで `none`。 -/
def MockClient.exec (m : MockClient) :
    List Call → Option (MockClient × List Mutation × List Response)
  | [] => some (m, [], [])
  | c :: cs => do
    let (ms, r) ← m.call c
    let (m', ms', rs) ← (m.run ms).exec cs
    pure (m', ms ++ ms', r :: rs)

/-- 直に状態を変える呼び出しなら、その `Mutation`。 -/
def Call.mutation : Call → Option Mutation
  | .setResourceHandler h => some (.setResourceHandler h)
  | .appendMockObjects obj => some (.appendMockObjects obj)
  | _ => none

/-- 最後に `SetResourceHandler` で置いた handler。一度も置いていなければ `h`。 -/
def lastHandler (h : Option ResourceHandler) : List Mutation → Option ResourceHandler
  | [] => h
  | .setResourceHandler h' :: ms => lastHandler h' ms
  | .appendMockObjects _ :: ms => lastHandler h ms

/-- 初めの列 `objs` から作った mock に `Mutation` の列 `ms` が流れた後の状態。 -/
def stateAfter (objs : List Object) (ms : List Mutation) : MockClient where
  objects := storedAfter objs ms
  kindObjectList := kindIndex objs
  hander := lastHandler none ms

/-- mock が何もせずに返す書き込み。`Create` は handler を呼ぶので入らない。 -/
def Call.isIgnoredWrite : Call → Bool
  | .delete _ | .update _ | .patch _ | .deleteAllOf _ => true
  | _ => false

/-! ## panic の条件 -/

/-- matcher が nil でなく、`obj` を受け入れる。 -/
def Accepts (obj : Object) (x : Option (Object → Bool)) : Prop := ∃ g, x = some g ∧ g obj = true

/-- `Create obj` が panic する条件: 置かれた handler の matcher が空でなく、受け入れない matcher
より前に nil の matcher があるか、すべての matcher が受け入れて、`Handler` が nil か panic する。 -/
def CreatePanics (m : MockClient) (obj : Object) : Prop :=
  ∃ matcher handler, m.hander = some (.mk matcher handler) ∧ matcher ≠ [] ∧
    ((∃ pre post, matcher = pre ++ none :: post ∧ ∀ x ∈ pre, Accepts obj x) ∨
      (∀ x ∈ matcher, Accepts obj x) ∧
        ∀ f, handler = some f → f obj m.objects m.kindObjectList = none)

/-- 呼び出し `c` が状態 `m` で panic する条件。 -/
def Panics (m : MockClient) : Call → Prop
  | .get key outType => ∃ o, m.get key = .ok o ∧ o.goType ≠ outType
  | .create obj => CreatePanics m obj
  | .unimplemented _ => True
  | _ => False

theorem matchAll_eq_some_true {obj : Object} {matchers : List (Option (Object → Bool))} :
    matchAll obj matchers = some true ↔ ∀ x ∈ matchers, Accepts obj x := by
  induction matchers with
  | nil => simp [matchAll]
  | cons x matchers ih =>
    cases x with
    | none => simp [matchAll, Accepts]
    | some g => by_cases hg : g obj = true <;> simp [matchAll, Accepts, hg, ih]

theorem matchAll_eq_none {obj : Object} {matchers : List (Option (Object → Bool))} :
    matchAll obj matchers = none ↔
      ∃ pre post, matchers = pre ++ none :: post ∧ ∀ x ∈ pre, Accepts obj x := by
  induction matchers with
  | nil => simp [matchAll]
  | cons x matchers ih =>
    cases x with
    | none => exact iff_of_true rfl ⟨[], matchers, rfl, by simp⟩
    | some g =>
      -- 先頭が nil でないので、nil の前の部分は `some g` で始まる
      have split : ∀ {pre post}, some g :: matchers = pre ++ none :: post →
          ∃ pre', pre = some g :: pre' ∧ matchers = pre' ++ none :: post := fun heq => by
        rcases List.cons_eq_append_iff.mp heq with ⟨-, h⟩ | h
        · cases h
        · exact h
      by_cases hg : g obj = true
      · rw [show matchAll obj (some g :: matchers) = matchAll obj matchers by simp [matchAll, hg], ih]
        constructor
        · rintro ⟨pre, post, rfl, hpre⟩
          exact ⟨some g :: pre, post, rfl, List.forall_mem_cons.mpr ⟨⟨g, rfl, hg⟩, hpre⟩⟩
        · rintro ⟨pre, post, heq, hpre⟩
          obtain ⟨pre', rfl, hm⟩ := split heq
          exact ⟨pre', post, hm, fun y hy => hpre y (List.mem_cons_of_mem _ hy)⟩
      · refine iff_of_false (by simp [matchAll, hg]) ?_
        rintro ⟨pre, post, heq, hpre⟩
        obtain ⟨pre', rfl, -⟩ := split heq
        obtain ⟨g', hg', hobj⟩ := hpre _ (List.mem_cons_self _ _)
        cases hg'
        exact hg hobj

/-- **`Create` の panic。** -/
theorem create_eq_none_iff {m : MockClient} {obj : Object} :
    m.create obj = none ↔ CreatePanics m obj := by
  unfold CreatePanics
  rcases hh : m.hander with _ | ⟨matcher, handler⟩
  · simp [MockClient.create, hh]
  · have hcreate : m.create obj = none ↔ matcher ≠ [] ∧ (matchAll obj matcher = none ∨
        matchAll obj matcher = some true ∧
          ∀ f, handler = some f → f obj m.objects m.kindObjectList = none) := by
      unfold MockClient.create
      rw [hh]
      by_cases he : matcher = []
      · simp [he]
      · simp only [List.isEmpty_eq_false.mpr he, he]
        rcases matchAll obj matcher with _ | _ | _ <;> cases handler <;> simp [he]
    rw [hcreate, matchAll_eq_none, matchAll_eq_some_true]
    exact ⟨fun h => ⟨matcher, handler, rfl, h⟩, fun ⟨_, _, heq, h⟩ => by cases heq; exact h⟩

/-- `Get` が panic するのは、見つけた object の Go の型が写す先の型と違うときに限る。 -/
theorem getInto_eq_none_iff {m : MockClient} {key : ObjectKey} {outType : String} :
    m.getInto key outType = none ↔ ∃ o, m.get key = .ok o ∧ o.goType ≠ outType := by
  unfold MockClient.getInto setGetReturnedObject
  cases m.get key with
  | error e => simp
  | ok o => by_cases h : o.goType = outType <;> simp [h]

/-! ## 一つの呼び出し -/

variable {m : MockClient} {c : Call} {ms : List Mutation} {r : Response}

/-- **panic の条件。** 呼び出しが panic するのは `Panics` のときに限る。 -/
theorem call_eq_none_iff : m.call c = none ↔ Panics m c := by
  cases c <;> simp [MockClient.call, Panics, getInto_eq_none_iff, create_eq_none_iff]

/-- `Create` のほかの呼び出しが流すのは、自分自身の `Mutation` だけ。 -/
theorem call_mutations (h : m.call c = some (ms, r)) (hc : ∀ obj, c ≠ .create obj) :
    ms = c.mutation.toList := by
  cases c with
  | get key outType =>
    cases hg : m.getInto key outType <;> simp_all [MockClient.call, Call.mutation]
  | create obj => exact absurd rfl (hc obj)
  | _ => simp_all [MockClient.call, Call.mutation]

/-- 何もしない書き込みは、`Mutation` を流さず、panic もしない。 -/
theorem call_ignored (hw : c.isIgnoredWrite = true) (m : MockClient) : ∃ r, m.call c = some ([], r) := by
  cases c <;> simp_all [Call.isIgnoredWrite, MockClient.call]

/-! ## 呼び出しの列 -/

theorem MockClient.run_append (m : MockClient) (xs ys : List Mutation) :
    m.run (xs ++ ys) = (m.run xs).run ys := List.foldl_append _ _ _ _

theorem run_hander (m : MockClient) (ms : List Mutation) :
    (m.run ms).hander = lastHandler m.hander ms := by
  induction ms generalizing m with
  | nil => rfl
  | cons μ ms ih =>
    cases μ with
    | setResourceHandler h => exact ih (m.setResourceHandler h)
    | appendMockObjects obj =>
      refine (ih (m.appendMockObjects obj)).trans ?_
      simp only [MockClient.appendMockObjects]
      split <;> rfl

/-- 列を二つに分けて流しても同じ。前半で panic すれば後半は流さない。 -/
theorem exec_append (m : MockClient) (xs ys : List Call) :
    m.exec (xs ++ ys) = (m.exec xs).bind fun p =>
      (p.1.exec ys).map fun q => (q.1, p.2.1 ++ q.2.1, p.2.2 ++ q.2.2) := by
  induction xs generalizing m with
  | nil => cases h : m.exec ys <;> simp [MockClient.exec, h]
  | cons c xs ih =>
    cases hc : m.call c with
    | none => simp [MockClient.exec, hc]
    | some p =>
      obtain ⟨ms, r⟩ := p
      cases h₁ : (m.run ms).exec xs with
      | none => simp [MockClient.exec, hc, ih, h₁]
      | some q => cases h₂ : q.1.exec ys <;> simp [MockClient.exec, hc, ih, h₁, h₂]

/-- 最後に一つ足す。 -/
theorem exec_snoc (m : MockClient) (cs : List Call) (c : Call) :
    m.exec (cs ++ [c]) = (m.exec cs).bind fun p =>
      (p.1.call c).map fun q => (p.1.run q.1, p.2.1 ++ q.1, p.2.2 ++ [q.2]) := by
  rw [exec_append]
  congr 1
  funext p
  simp only [MockClient.exec]
  cases p.1.call c <;> simp

/-- 先頭の呼び出しと残りに分ける。 -/
theorem exec_cons_eq_some {m' : MockClient} {cs : List Call} {rs : List Response} :
    m.exec (c :: cs) = some (m', ms, rs) ↔
      ∃ ms₁ r ms₂ rs', m.call c = some (ms₁, r) ∧ (m.run ms₁).exec cs = some (m', ms₂, rs') ∧
        ms = ms₁ ++ ms₂ ∧ rs = r :: rs' := by
  simp only [MockClient.exec, Option.bind_eq_bind, Option.bind_eq_some, Option.pure_def,
    Option.some.injEq, Prod.exists, Prod.mk.injEq]
  constructor
  · rintro ⟨ms₁, r, hc, m₂, ms₂, rs', he, rfl, rfl, rfl⟩
    exact ⟨ms₁, r, ms₂, rs', hc, he, rfl, rfl⟩
  · rintro ⟨ms₁, r, ms₂, rs', hc, he, rfl, rfl⟩
    exact ⟨ms₁, r, hc, m', ms₂, rs', he, rfl, rfl, rfl⟩

/-- 前半と後半に分ける。 -/
theorem exec_append_eq_some {m' : MockClient} {xs ys : List Call} {rs : List Response} :
    m.exec (xs ++ ys) = some (m', ms, rs) ↔
      ∃ m₁ ms₁ rs₁ ms₂ rs₂, m.exec xs = some (m₁, ms₁, rs₁) ∧ m₁.exec ys = some (m', ms₂, rs₂) ∧
        ms = ms₁ ++ ms₂ ∧ rs = rs₁ ++ rs₂ := by
  rw [exec_append]
  constructor
  · intro h
    obtain ⟨⟨m₁, ms₁, rs₁⟩, h₁, h₂⟩ := Option.bind_eq_some.mp h
    obtain ⟨⟨m₂, ms₂, rs₂⟩, h₃, h₄⟩ := Option.map_eq_some'.mp h₂
    cases h₄
    exact ⟨m₁, ms₁, rs₁, ms₂, rs₂, h₁, h₃, rfl, rfl⟩
  · rintro ⟨m₁, ms₁, rs₁, ms₂, rs₂, h₁, h₂, rfl, rfl⟩
    simp [h₁, h₂]

/-- **列全体。** 流し終えた状態は、流れた `Mutation` を流した状態で、答えは呼び出しの数だけ
ある。 -/
theorem exec_state {m' : MockClient} {cs : List Call} {rs : List Response}
    (h : m.exec cs = some (m', ms, rs)) : m' = m.run ms ∧ rs.length = cs.length := by
  induction cs generalizing m m' ms rs with
  | nil => simp_all [MockClient.exec, MockClient.run]
  | cons c cs ih =>
    obtain ⟨ms₁, r, ms₂, rs', -, he, rfl, rfl⟩ := exec_cons_eq_some.mp h
    obtain ⟨hq, hlen⟩ := ih he
    exact ⟨hq.trans (MockClient.run_append _ _ _).symm, by simp [hlen]⟩

/-- nil のない列から作った mock に `Mutation` の列を流すと、`stateAfter` になる。 -/
theorem run_newMockClient (objs : List Object) (ms : List Mutation) :
    (MockClient.mk (lastByKey objs) (kindIndex objs) none).run ms = stateAfter objs ms := by
  have ho := funext (run_objects ⟨lastByKey objs, kindIndex objs, none⟩ ms)
  have hk := run_kindObjectList ⟨lastByKey objs, kindIndex objs, none⟩ ms
  have hh := run_hander ⟨lastByKey objs, kindIndex objs, none⟩ ms
  generalize MockClient.run _ _ = m at ho hk hh
  cases m
  subst ho hk hh
  rfl

theorem stateAfter_run (objs : List Object) (ms ms' : List Mutation) :
    (stateAfter objs ms).run ms' = stateAfter objs (ms ++ ms') := by
  rw [← run_newMockClient, ← run_newMockClient, MockClient.run_append]

/-! ## mock が答える状態 -/

/-- **消しても何も起きない書き込み。** どの状態から、どの呼び出しの列の途中に `Delete`、`Update`、
`Patch`、`DeleteAllOf` を一つ入れても、流れる `Mutation` も、ほかの呼び出しの答えも、最後の
状態も、panic するかどうかも変わらない。消した object も更新した object も、後の `Get` には
元のまま返る。 -/
theorem exec_erase_write (hw : c.isIgnoredWrite = true) (m : MockClient) (pre post : List Call) :
    (m.exec (pre ++ c :: post)).map (fun p => (p.1, p.2.1, p.2.2.eraseIdx pre.length)) =
      m.exec (pre ++ post) := by
  rw [exec_append, exec_append]
  cases h : m.exec pre with
  | none => rfl
  | some p =>
    obtain ⟨m₁, ms₁, rs₁⟩ := p
    have hlen := (exec_state h).2
    obtain ⟨r, hr⟩ := call_ignored hw m₁
    cases he : m₁.exec post <;>
      simp [MockClient.exec, hr, he, List.eraseIdx_append_of_length_le, hlen, MockClient.run]

theorem exec_erase_write_sample :
    (Call.delete ⟨"v1.ConfigMap", "ConfigMap", ⟨"cm", "default", [], []⟩⟩).isIgnoredWrite = true ∧
      ((MockClient.mk Go.GoMap.empty Go.GoMap.empty none).exec
          ([.appendMockObjects ⟨"v1.ConfigMap", "ConfigMap", ⟨"cm", "default", [], []⟩⟩] ++
            .delete ⟨"v1.ConfigMap", "ConfigMap", ⟨"cm", "default", [], []⟩⟩ ::
              [.get ⟨"default", "cm"⟩ "v1.ConfigMap"])).map
          (fun p => (p.1, p.2.1, p.2.2.eraseIdx 1)) =
        (MockClient.mk Go.GoMap.empty Go.GoMap.empty none).exec
          ([.appendMockObjects ⟨"v1.ConfigMap", "ConfigMap", ⟨"cm", "default", [], []⟩⟩] ++
            [.get ⟨"default", "cm"⟩ "v1.ConfigMap"]) :=
  ⟨rfl, exec_erase_write (c := .delete ⟨"v1.ConfigMap", "ConfigMap", ⟨"cm", "default", [], []⟩⟩) rfl
    ⟨Go.GoMap.empty, Go.GoMap.empty, none⟩
    [.appendMockObjects ⟨"v1.ConfigMap", "ConfigMap", ⟨"cm", "default", [], []⟩⟩]
    [.get ⟨"default", "cm"⟩ "v1.ConfigMap"]⟩

end Kbcli.Template
