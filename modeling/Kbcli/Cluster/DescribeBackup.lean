import Kbcli.Cluster.DescribeBackupPolicy

/-!
# `kbcli cluster describe-backup`

`Complete` は引数を backup の名前として受け取り、一つもなければ止める。`Run` は名前を順に
`Get` して `printBackupObj` で説明し、最初の失敗で止まる。spec の「batch の最初の失敗が
残りを止める」に当たる（`describeBackup_failFast`）。

* `Get` が失敗した名前は何も出さずに止まり、その error をそのまま返す。
* `printBackupObj` は説明をすべて出してから warning event を探すので、event の検索が
  失敗した backup は説明されたうえで止まる。
* 止まった名前より後ろの名前は引かない。結果は後ろの名前によらない。

`cluster.GetK8SClientObject` は repository の外にあるが、dynamic client の `Get` なので
`Store.getBackup` で読む。event の検索 `Events(namespace).Search` は引数 `searchEvents` で
受ける。`printBackupObj` の出力は backup ごとにまとめ、説明した backup として残す。

`printBackupObj` が説明の途中で呼ぶ `enhancePrintFailureReason` は job、pod、log を引いて
"Failure Reason" の行を足すだけで、その error は `_ =` で捨てられるので、止まる場所には
関わらない。モデルには入れない。

## 証明の形

一段の式（`describeEach_cons_ok`）から、名前の列についての帰納法で、止まった場所による
三つの場合分けを得る（`describeEach_outcome`）。
-/

namespace Kbcli.Cluster

/-- `DescribeBackupOptions` のうち `Complete` と `Run` が読み書きするもの。 -/
structure DescribeBackupOptions where
  names : List String
  ns : String
deriving DecidableEq, Repr

/-- `DescribeBackupOptions.Complete`。client と namespace の取得はモデルの外。 -/
def DescribeBackupOptions.complete (o : DescribeBackupOptions) (args : List String) :
    Except String DescribeBackupOptions :=
  if args.length = 0 then .error "backup name should be specified"
  else .ok { o with names := args }

variable (searchEvents : Backup → Except String Unit)

/-- `printBackupObj`。説明した backup を出力に残し、最後に event の検索の結果を返す。
`enhancePrintFailureReason` の error は捨てられる。 -/
def printBackupObj (obj : Backup) : List Backup × Except String Unit :=
  ([obj], searchEvents obj)

/-- `Run` の loop。名前を順に引いて説明し、最初の error で止まる。 -/
def describeEach (s : Store) (ns : String) : List String → List Backup × Except String Unit
  | [] => ([], .ok ())
  | name :: rest =>
    match s.getBackup ns name with
    | .error e => ([], .error e)
    | .ok obj =>
      match printBackupObj searchEvents obj with
      | (out, .error e) => (out, .error e)
      | (out, .ok ()) =>
        let (out', r) := describeEach s ns rest
        (out ++ out', r)

/-- `DescribeBackupOptions.Run`。 -/
def DescribeBackupOptions.run (s : Store) (o : DescribeBackupOptions) :
    List Backup × Except String Unit :=
  describeEach searchEvents s o.ns o.names

/-- `NewDescribeBackupCmd` の `Run`: `Complete` の後に `Run`。`Complete` が止めれば何も引かない。 -/
def describeBackup (s : Store) (o : DescribeBackupOptions) (args : List String) :
    List Backup × Except String Unit :=
  match o.complete args with
  | .error e => ([], .error e)
  | .ok o => o.run searchEvents s

/-! ## 止まる場所 -/

/-- 名前 `name` で止まったときの出力と結果。`Get` の error なら説明せず、event の検索の
error なら説明してから止まる。 -/
def StopsAt (s : Store) (ns name : String) (bs : List Backup)
    (res : List Backup × Except String Unit) : Prop :=
  (∃ e, s.getBackup ns name = .error e ∧ res = (bs, .error e)) ∨
    ∃ b e, s.getBackup ns name = .ok b ∧ searchEvents b = .error e ∧ res = (bs ++ [b], .error e)

/-- 名前 `pre` がどれも引けて、event の検索も通ること。`bs` はその backup。 -/
def Described (s : Store) (ns : String) (pre : List String) (bs : List Backup) : Prop :=
  pre.mapM (s.getBackup ns) = .ok bs ∧ ∀ b ∈ bs, searchEvents b = .ok ()

/-! ## 一段 -/

variable {searchEvents} {s : Store} {ns : String}

/-- 引けて event の検索も通った名前は、説明して次へ進む。 -/
theorem describeEach_cons_ok {name : String} {rest : List String} {b : Backup}
    (hg : s.getBackup ns name = .ok b) (he : searchEvents b = .ok ()) :
    describeEach searchEvents s ns (name :: rest) =
      (b :: (describeEach searchEvents s ns rest).1, (describeEach searchEvents s ns rest).2) := by
  simp only [describeEach, hg, printBackupObj, he, List.singleton_append]

theorem StopsAt.cons {name : String} {bs : List Backup} {b : Backup}
    {res : List Backup × Except String Unit} (h : StopsAt searchEvents s ns name bs res) :
    StopsAt searchEvents s ns name (b :: bs) (b :: res.1, res.2) := by
  rcases h with ⟨e, hg, rfl⟩ | ⟨b', e, hg, he, rfl⟩
  · exact .inl ⟨e, hg, rfl⟩
  · exact .inr ⟨b', e, hg, he, rfl⟩

theorem Described.cons {name : String} {pre : List String} {b : Backup} {bs : List Backup}
    (hg : s.getBackup ns name = .ok b) (he : searchEvents b = .ok ())
    (h : Described searchEvents s ns pre bs) :
    Described searchEvents s ns (name :: pre) (b :: bs) := by
  refine ⟨by rw [List.mapM_cons, hg, h.1]; rfl, ?_⟩
  rintro b' (_ | ⟨_, hb'⟩)
  · exact he
  · exact h.2 b' hb'

/-- loop の結果は三つに分かれる。すべて通るか、ある名前の `Get` で止まるか、その名前の
event の検索で止まるかである。 -/
theorem describeEach_outcome : ∀ names : List String,
    (∃ bs, Described searchEvents s ns names bs ∧
      describeEach searchEvents s ns names = (bs, .ok ())) ∨
    ∃ pre name rest bs, names = pre ++ name :: rest ∧ Described searchEvents s ns pre bs ∧
      StopsAt searchEvents s ns name bs (describeEach searchEvents s ns names)
  | [] => .inl ⟨[], ⟨rfl, by simp⟩, rfl⟩
  | name :: rest => by
    have hnil : Described searchEvents s ns [] [] := ⟨rfl, by simp⟩
    cases hg : s.getBackup ns name with
    | error e =>
      exact .inr ⟨[], name, rest, [], rfl, hnil, .inl ⟨e, hg, by simp [describeEach, hg]⟩⟩
    | ok b =>
      cases he : searchEvents b with
      | error e =>
        exact .inr ⟨[], name, rest, [], rfl, hnil,
          .inr ⟨b, e, hg, he, by simp [describeEach, hg, printBackupObj, he]⟩⟩
      | ok u =>
        rw [describeEach_cons_ok hg he]
        rcases describeEach_outcome rest with ⟨bs, hd, hrun⟩ | ⟨pre, n, rest', bs, hn, hd, hstop⟩
        · exact .inl ⟨b :: bs, hd.cons hg he, by rw [hrun]⟩
        · exact .inr ⟨name :: pre, n, rest', b :: bs, by rw [hn]; rfl, hd.cons hg he, hstop.cons⟩

/-- **最初の失敗で止まる。** describe-backup は、名前がなければ何も引かずに止まる。名前が
あれば、すべての名前が引けて event の検索も通るときに限って通り、名前の順にすべてを
説明する。そうでなければ、最初に失敗した名前の手前までを説明し、その名前の `Get` の
error で、または説明してから event の検索の error で止まる。後ろの名前は結果に効かない。 -/
theorem describeBackup_failFast (o : DescribeBackupOptions) (args : List String) :
    (args = [] ∧
      describeBackup searchEvents s o args = ([], .error "backup name should be specified")) ∨
    (∃ bs, args ≠ [] ∧ Described searchEvents s o.ns args bs ∧
      describeBackup searchEvents s o args = (bs, .ok ())) ∨
    ∃ pre name rest bs, args = pre ++ name :: rest ∧ Described searchEvents s o.ns pre bs ∧
      StopsAt searchEvents s o.ns name bs (describeBackup searchEvents s o args) := by
  cases args with
  | nil => exact .inl ⟨rfl, rfl⟩
  | cons a rest =>
    have hrun : describeBackup searchEvents s o (a :: rest) =
        describeEach searchEvents s o.ns (a :: rest) := rfl
    rw [hrun]
    rcases describeEach_outcome (a :: rest) with ⟨bs, hd, h⟩ | h
    · exact .inr (.inl ⟨bs, List.cons_ne_nil a rest, hd, h⟩)
    · exact .inr (.inr h)

example :
    let b : Backup := ⟨⟨"parent1", "default", [], []⟩, "Completed"⟩
    describeBackup (fun _ => .ok ()) ⟨[], [], [b], by decide, by decide, by decide⟩
        ⟨[], "default"⟩ ["parent1", "missing", "parent1"] =
      ([b], .error (notFound "backups.dataprotection.kubeblocks.io" "missing")) := rfl

end Kbcli.Cluster
