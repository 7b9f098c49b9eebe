import Kbcli.Types

/-!
# offline render の `mockClient`

`template` パッケージの `mockClient` は、API server の代わりに手元の object の列に答える。
索引は二つある。

* `objects`: key から object への表。`Get` はこれを引き、見つからなければ namespace を
  空にしてもう一度引く。
* `kindObjectList`: kind から object の列への表。`List` はこれを返す。

二つは別々に作られる。`fromObjects` は nil を飛ばし、同じ key は後のものが勝つ。
`splitRuntimeObject` は nil で止まり（`GetObjectKind` が nil を辿って panic する）、
同じ key の object も全部残す。作った後に状態を変えるのは `SetResourceHandler` と
`AppendMockObjects` だけで、後者は key の表にしか足さず、同じ key があれば何もしない。
`Create` は状態に触れず、handler が mock に対して行う呼び出しだけが状態を変える。

## panic

`Get` と `List` は見つけた object を reflect で呼び出し側の object に写す。`Get` の
`SetGetReturnedObject` は Go の型が違えば `Set` で panic し（`getInto`）、`List` の
`meta.SetList` は型の違う要素があれば error を返す（`listInto`）。`Create` は nil の matcher や
nil の `Handler` に来れば panic する（`create`）。

## 方針

状態を変える呼び出しを `Mutation` にまとめ、その列を `MockClient.run` で流す。
一歩ごとの補題（`apply_objects`、`apply_kindObjectList`）から、列全体について
key の表は初めの表に足した object の最初のものを後ろに繋いだもので、kind の表は
変わらないことを示す（`run_objects`、`run_kindObjectList`）。
-/

namespace Kbcli.Template

open Go

/-- `client.Object`。`goType` は Go の型（`*v1.ConfigMap` なら `v1.ConfigMap`）で、reflect で
値を写すときに比べる。`kind` は `GetObjectKind().GroupVersionKind().Kind` で、TypeMeta を
埋めていない object では空のこともあるので、型とは別に持つ。`meta` は key と、同じ key の
object を見分けるのに使う。 -/
structure Object where
  goType : String
  kind : String
  meta : ObjectMeta
deriving DecidableEq, Repr

mutual
/-- `ResourceHandler`。`Matcher` の要素も `Handler` も Go の func なので nil のこともある
（`none`）。handler は受け取った object と、そのときの mock の二つの表から、mock に対して
行う呼び出しと返す error を決める。`none` は handler の中の panic。 -/
inductive ResourceHandler where
  | mk (matcher : List (Option (Object → Bool)))
      (handler : Option (Object → GoMap ObjectKey Object → GoMap String (List Object) →
        Option (List Mutation × Except String Unit)))

/-- 作った後に `mockClient` を変える呼び出し。 -/
inductive Mutation where
  | setResourceHandler (h : Option ResourceHandler)
  | appendMockObjects (obj : Object)
end

/-- `mockClient`。 -/
structure MockClient where
  objects : GoMap ObjectKey Object
  kindObjectList : GoMap String (List Object)
  hander : Option ResourceHandler

/-! ## 作る -/

/-- `fromObjects` の一回り。nil は飛ばし、同じ key は上書きする。 -/
def fromObjectsStep (r : GoMap ObjectKey Object) : Option Object → GoMap ObjectKey Object
  | some obj => Function.update r obj.meta.key (some obj)
  | none => r

/-- `fromObjects`。 -/
def fromObjects (objs : List (Option Object)) : GoMap ObjectKey Object :=
  objs.foldl fromObjectsStep GoMap.empty

/-- `splitRuntimeObject` の一回り。kind の列がなければ空の列を作り、末尾に足す。
nil の要素では panic する（`none`）。 -/
def splitStep (r : GoMap String (List Object)) :
    Option Object → Option (GoMap String (List Object))
  | some object => some (Function.update r object.kind (some ((r object.kind).getD [] ++ [object])))
  | none => none

/-- `splitRuntimeObject`。 -/
def splitRuntimeObject (objects : List (Option Object)) : Option (GoMap String (List Object)) :=
  objects.foldlM splitStep GoMap.empty

/-- `newMockClient`。`splitRuntimeObject` が panic すれば作れない。 -/
def newMockClient (objs : List (Option Object)) : Option MockClient := do
  let kindObjectList ← splitRuntimeObject objs
  pure { objects := fromObjects objs, kindObjectList, hander := none }

/-! ## 呼び出し -/

/-- `AppendMockObjects`。同じ key があれば何もせず、kind の表には触れない。 -/
def MockClient.appendMockObjects (m : MockClient) (obj : Object) : MockClient :=
  match m.objects obj.meta.key with
  | some _ => m
  | none => { m with objects := Function.update m.objects obj.meta.key (some obj) }

/-- `SetResourceHandler`。 -/
def MockClient.setResourceHandler (m : MockClient) (h : Option ResourceHandler) : MockClient :=
  { m with hander := h }

/-- `Get` が object を探すところ。key で引き、なければ namespace を空にして引く。 -/
def MockClient.get (m : MockClient) (key : ObjectKey) : Except String Object :=
  match m.objects key with
  | some object => .ok object
  | none =>
    match m.objects { key with ns := "" } with
    | some object => .ok object
    | none => .error (notFound "mock_resource" key.toString)

/-- `SetGetReturnedObject`。`out` の指す先に `expectedObj` の指す先を reflect で写す。
Go の型が違えば `Set` が panic する（`none`）。 -/
def setGetReturnedObject (outType : String) (expectedObj : Object) : Option Object :=
  if expectedObj.goType = outType then some expectedObj else none

/-- `Get` を Go の型 `outType` の object に対して呼ぶ。見つけた object を写して nil を返す。 -/
def MockClient.getInto (m : MockClient) (key : ObjectKey) (outType : String) :
    Option (Except String Object) :=
  match m.get key with
  | .ok object => (setGetReturnedObject outType object).map .ok
  | .error e => some (.error e)

/-- `List` が列を探すところ。kind の列があれば `list` をそれで置き換え、なければ `list` はそのまま。 -/
def MockClient.list (m : MockClient) (kind : String) (list : List Object) : List Object :=
  match m.kindObjectList kind with
  | some r => r
  | none => list

/-- `meta.SetList` の要素ごとの繰り返し。`i` 番目の object の型が要素の型と違えば、その位置で
error を返し、list には何も写さない。 -/
def setListItems (itemType : String) : Nat → List Object → Except String Unit
  | _, [] => .ok ()
  | i, object :: objects =>
    if object.goType = itemType then setListItems itemType (i + 1) objects
    else .error ("item[" ++ toString i ++ "]: can\x27t assign or convert " ++ object.goType ++
      " into " ++ itemType)

/-- `SetListReturnedObjects`（`meta.SetList`）。要素の型が `itemType` の list に写す。 -/
def setListReturnedObjects (itemType : String) (objects : List Object) :
    Except String (List Object) :=
  (setListItems itemType 0 objects).map fun _ => objects

/-- `List` を要素の型が `itemType` の list に対して呼ぶ。kind の列がなければ nil を返し、
list はそのまま。 -/
def MockClient.listInto (m : MockClient) (kind itemType : String) (list : List Object) :
    Except String (List Object) :=
  match m.kindObjectList kind with
  | some r => setListReturnedObjects itemType r
  | none => .ok list

/-- `Create` の matcher の繰り返し。nil の matcher に来れば panic（`none`）、受け入れない
matcher があればそこで `some false`、すべて受け入れれば `some true`。 -/
def matchAll (obj : Object) : List (Option (Object → Bool)) → Option Bool
  | [] => some true
  | none :: _ => none
  | some matcher :: matchers => if matcher obj then matchAll obj matchers else some false

/-- `Create`。handler がないか matcher が空なら何もしない。matcher がすべて受け入れたときだけ
`Handler` を呼び、handler が mock に対して行う呼び出しと、その error を返す。nil の matcher や
nil の `Handler` を呼べば panic（`none`）。 -/
def MockClient.create (m : MockClient) (obj : Object) :
    Option (List Mutation × Except String Unit) :=
  match m.hander with
  | none => some ([], .ok ())
  | some (.mk matcher handler) =>
    if matcher.isEmpty then some ([], .ok ())
    else
      match matchAll obj matcher, handler with
      | none, _ => none
      | some false, _ => some ([], .ok ())
      | some true, none => none
      | some true, some f => f obj m.objects m.kindObjectList

/-! ## 状態を変える呼び出しの列 -/

/-- 呼び出し一つ。 -/
def MockClient.apply (m : MockClient) : Mutation → MockClient
  | .setResourceHandler h => m.setResourceHandler h
  | .appendMockObjects obj => m.appendMockObjects obj

/-- 呼び出しを順に流す。 -/
def MockClient.run (m : MockClient) (ms : List Mutation) : MockClient := ms.foldl MockClient.apply m

/-- 列のうち `AppendMockObjects` に渡した object。 -/
def appended : List Mutation → List Object
  | [] => []
  | .setResourceHandler _ :: ms => appended ms
  | .appendMockObjects obj :: ms => obj :: appended ms

/-- `obj` の key で引くときにだけ当たる表。 -/
def keyHit (obj : Object) (key : ObjectKey) : Option Object :=
  if obj.meta.key = key then some obj else none

theorem appendMockObjects_objects (m : MockClient) (obj : Object) (key : ObjectKey) :
    (m.appendMockObjects obj).objects key = (m.objects key).or (keyHit obj key) := by
  unfold MockClient.appendMockObjects keyHit
  by_cases hk : obj.meta.key = key
  · subst hk
    cases h : m.objects obj.meta.key <;> simp [h]
  · cases m.objects obj.meta.key <;> simp [Function.update_noteq (Ne.symm hk), hk]

/-- 一歩で key の表に足されるのは、新しい key の object だけ。 -/
theorem apply_objects (m : MockClient) (μ : Mutation) (key : ObjectKey) :
    (m.apply μ).objects key = (m.objects key).or ((appended [μ]).find? (·.meta.key = key)) := by
  cases μ with
  | setResourceHandler h => simp [MockClient.apply, MockClient.setResourceHandler, appended]
  | appendMockObjects obj =>
    simp only [MockClient.apply, appended, appendMockObjects_objects, keyHit, List.find?_singleton,
      decide_eq_true_eq]

theorem apply_kindObjectList (m : MockClient) (μ : Mutation) :
    (m.apply μ).kindObjectList = m.kindObjectList := by
  cases μ with
  | setResourceHandler h => rfl
  | appendMockObjects obj =>
    simp only [MockClient.apply, MockClient.appendMockObjects]
    split <;> rfl

theorem appended_append (ms ms' : List Mutation) :
    appended (ms ++ ms') = appended ms ++ appended ms' := by
  induction ms with
  | nil => rfl
  | cons μ ms ih => cases μ <;> simp [appended, ih]

/-- **列全体で key の表に足されるもの。** ある key で引くと、初めの表で当たればそれ、
なければ足した object のうちその key を持つ最初のもの。 -/
theorem run_objects (m : MockClient) (ms : List Mutation) (key : ObjectKey) :
    (m.run ms).objects key = (m.objects key).or ((appended ms).find? (·.meta.key = key)) := by
  induction ms using List.reverseRecOn with
  | nil => simp [MockClient.run, appended]
  | append_singleton ms μ ih =>
    simp only [MockClient.run, List.foldl_append, List.foldl_cons, List.foldl_nil] at ih ⊢
    rw [apply_objects, ih, appended_append, List.find?_append, Option.or_assoc]

/-- **kind の表は作ったときのまま。** -/
theorem run_kindObjectList (m : MockClient) (ms : List Mutation) :
    (m.run ms).kindObjectList = m.kindObjectList := by
  induction ms using List.reverseRecOn with
  | nil => rfl
  | append_singleton ms μ ih =>
    simp only [MockClient.run, List.foldl_append, List.foldl_cons, List.foldl_nil] at ih ⊢
    rw [apply_kindObjectList, ih]

end Kbcli.Template
