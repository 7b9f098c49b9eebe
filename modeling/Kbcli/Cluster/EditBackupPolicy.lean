import Kbcli.Types

/-!
# `kbcli cluster edit-backup-policy`

`complete` が編集の表（`editContent`）と key から update 関数への map を作り、
`runEditBackupPolicy` が policy を読んで、編集器か `--set` から `key=value` の行を得て、
`applyChanges` が一行ずつ update 関数を当てる。最後に、描いた行を繋いだ `original` と
読んだ行を繋いだ `target` を比べ、違えば object 全体を `Update` する。

## 状態と作用

Go では `original`、`target`、`values` は options の field で、policy は pointer で渡る。
ここでは三つをまとめて `EditRun` にし、外から見える作用を `Effect` の列に残す。
`Effect.call` は `applyChanges` が update 関数を呼んだ印で、fail-fast の性質を
述べるためにある。

API server の答え（policy、BackupRepo の有無、`Update` の成否）と編集器が返す本文は
`Dynamic` と `Editor` の関数で受ける。どの答えについても成り立つことを示すためである。
-/

namespace Kbcli.Cluster

open Go

/-- edit が dynamic client に頼むこと。答えは API server が決める。 -/
structure Dynamic where
  /-- `util.GetResourceObjectFromGVR(types.BackupPolicyGVR(), key, …)`。 -/
  getBackupPolicy : ObjectKey → Except String BackupPolicy
  /-- `Resource(types.BackupRepoGVR()).Get(name)`。BackupRepo は namespace を持たない。 -/
  getBackupRepo : String → Except String Unit
  /-- `Resource(types.BackupPolicyGVR()).Namespace(ns).Update(obj)`。 -/
  update : BackupPolicy → Except String Unit

/-- `cmdutil.Factory` から edit が受け取るもの。 -/
structure Factory where
  /-- `ToRawKubeConfigLoader().Namespace()`。 -/
  ns : Except String String
  /-- `DynamicClient()`。 -/
  dynamicClient : Except String Dynamic

/-- `editor.LaunchTempFile`。file 名の接頭辞と書き出した本文を受け、保存された本文を返す。 -/
abbrev Editor := String → String → Except String String

/-- `updateBackupPolicyFieldFunc`。Go では `*BackupPolicy` を書き換えて `error` を返す。 -/
abbrev UpdateBackupPolicyFieldFunc := BackupPolicy → String → Except String BackupPolicy

/-- `editorRow`。`updateFunc` は Go では nil になりうる。 -/
structure EditorRow where
  key : String
  jsonpath : String
  updateFunc : Option UpdateBackupPolicyFieldFunc

/-- `editBackupPolicyOptions`。`Factory` と `IOStreams` は `complete` が使い終えている。 -/
structure EditBackupPolicyOptions where
  ns : String
  name : String
  dynamic : Dynamic
  editContent : List EditorRow
  editContentKeyMap : GoMap String UpdateBackupPolicyFieldFunc
  original : String
  target : String
  values : List String
  isTest : Bool

/-- 外から見える作用。 -/
inductive Effect
  /-- `applyChanges` が `key` の update 関数を値 `value` で呼んだ。 -/
  | call (key value : String)
  /-- `Update` を送った。 -/
  | update (obj : BackupPolicy)
  /-- `fmt.Fprintln(o.Out, line)`。 -/
  | print (line : String)
deriving DecidableEq, Repr

/-- `applyChanges` が書き換えるもの: options、手元の policy、作用の記録。 -/
structure EditRun where
  o : EditBackupPolicyOptions
  policy : BackupPolicy
  effects : List Effect

/-- 作用を一つ記録する。 -/
def EditRun.emit (r : EditRun) (e : Effect) : EditRun := { r with effects := r.effects ++ [e] }

@[simp] theorem EditRun.emit_o (r : EditRun) (e : Effect) : (r.emit e).o = r.o := rfl
@[simp] theorem EditRun.emit_policy (r : EditRun) (e : Effect) : (r.emit e).policy = r.policy :=
  rfl
@[simp] theorem EditRun.emit_effects (r : EditRun) (e : Effect) :
    (r.emit e).effects = r.effects ++ [e] := rfl

/-- `o.target += row`。 -/
def EditRun.addTarget (r : EditRun) (row : String) : EditRun :=
  { r with o := { r.o with target := r.o.target ++ row } }

@[simp] theorem EditRun.addTarget_o (r : EditRun) (row : String) :
    (r.addTarget row).o = { r.o with target := r.o.target ++ row } := rfl
@[simp] theorem EditRun.addTarget_policy (r : EditRun) (row : String) :
    (r.addTarget row).policy = r.policy := rfl
@[simp] theorem EditRun.addTarget_effects (r : EditRun) (row : String) :
    (r.addTarget row).effects = r.effects := rfl

/-! ## complete -/

/-- `updateRepoName`。空でない名前は BackupRepo があるかを確かめてから入れ、空なら外す。 -/
def updateRepoName (dyn : Dynamic) (backupPolicy : BackupPolicy) (targetVal : String) :
    Except String BackupPolicy :=
  if targetVal = "" then .ok { backupPolicy with spec := { backupRepoName := none } }
  else
    match dyn.getBackupRepo targetVal with
    | .error e => .error e
    | .ok () => .ok { backupPolicy with spec := { backupRepoName := some targetVal } }

/-- `complete` が組む編集の表。行は一つ。 -/
def editContent (dyn : Dynamic) : List EditorRow :=
  [{ key := "backupRepoName", jsonpath := "backupRepoName",
     updateFunc := some (updateRepoName dyn) }]

/-- `editContentKeyMap` を埋める loop。後の行が前の行を上書きする。 -/
def buildKeyMap : List EditorRow → GoMap String UpdateBackupPolicyFieldFunc →
    Except String (GoMap String UpdateBackupPolicyFieldFunc)
  | [], m => .ok m
  | v :: vs, m =>
    match v.updateFunc with
    | none => .error "updateFunc can not be nil"
    | some f => buildKeyMap vs (Function.update m v.key (some f))

/-- `complete`。`values` は `--set` の値で、そのほかの field は `NewEditBackupPolicyCmd` の
初期値のまま。 -/
def complete (f : Factory) (values args : List String) : Except String EditBackupPolicyOptions :=
  match args with
  | [] => .error "missing backupPolicy name"
  | [name] =>
    match f.ns, f.dynamicClient with
    | .error e, _ => .error e
    | .ok _, .error e => .error e
    | .ok ns, .ok dyn =>
      match buildKeyMap (editContent dyn) GoMap.empty with
      | .error e => .error e
      | .ok km =>
        .ok { ns, name, dynamic := dyn, editContent := editContent dyn,
              editContentKeyMap := km, original := "", target := "", values, isTest := false }
  | _ :: _ :: _ => .error "only support to update one backupPolicy or quote cronExpression"

/-- 表の唯一の key。 -/
def editKeyMap (dyn : Dynamic) : GoMap String UpdateBackupPolicyFieldFunc :=
  Function.update GoMap.empty "backupRepoName" (some (updateRepoName dyn))

/-- **`complete` の結果。** 引数がちょうど一つのときだけ通り、表と map は `backupRepoName`
一つだけを持ち、`original` と `target` は空から始まる。 -/
theorem complete_eq_ok {f : Factory} {values args : List String} {o : EditBackupPolicyOptions}
    (h : complete f values args = .ok o) :
    ∃ name, args = [name] ∧ o.name = name ∧ f.ns = .ok o.ns ∧
      f.dynamicClient = .ok o.dynamic ∧ o.editContent = editContent o.dynamic ∧
      o.editContentKeyMap = editKeyMap o.dynamic ∧
      o.original = "" ∧ o.target = "" ∧ o.values = values ∧ o.isTest = false := by
  match args, f, h with
  | [name], ⟨.ok ns, .ok dyn⟩, h =>
    simp only [complete, editContent, buildKeyMap, Except.ok.injEq] at h
    subst h
    exact ⟨name, rfl, rfl, rfl, rfl, rfl, rfl, rfl, rfl, rfl, rfl⟩

/-! ## 描く -/

/-- `getValueWithJsonpath`。`{.backupRepoName}` は `*string` の field を指し、nil なら nil、
そうでなければ `%v` で書いた値、つまり文字列そのものを返す。表の path はこれだけで、
ほかの path は `AllowMissingKeys(true)` の下で見つからない key として nil になる。 -/
def getValueWithJsonpath (spec : BackupPolicySpec) (path : String) : Option String :=
  if path = "backupRepoName" then spec.backupRepoName else none

/-- 表の各行を `key=value` に描く。値が nil の行は出さない。 -/
def editorRows (rows : List EditorRow) (spec : BackupPolicySpec) : List String :=
  rows.filterMap fun v => (getValueWithJsonpath spec v.jsonpath).map (v.key ++ "=" ++ ·)

/-- `buildEditorContent`。描いた行を `original` に足してゆき、本文は行を改行で繋ぐ。 -/
def buildEditorContent (o : EditBackupPolicyOptions) (p : BackupPolicy) :
    EditBackupPolicyOptions × String :=
  let rows := editorRows o.editContent p.spec
  ({ o with original := rows.foldl (· ++ ·) o.original }, join rows "\n")

/-- `runWithEditor` の `addHeader`。 -/
def addHeader (contents : String) : String :=
  "# Please edit the object below. Lines beginning with a '#' will be ignored,\n" ++
  "# and an empty file will abort the edit. If an error occurs while saving this file will be\n" ++
  "# reopened with the relevant failures.\n" ++
  "#\n" ++ contents ++ "\n"

/-- `runWithEditor`。`isTest` のときは編集器を開かず空の本文を返す。 -/
def runWithEditor (editor : Editor) (o : EditBackupPolicyOptions) (p : BackupPolicy) :
    EditBackupPolicyOptions × Except String String :=
  let (o, contents) := buildEditorContent o p
  if o.isTest then (o, .ok "") else (o, editor (p.meta.name ++ "-edit-") (addHeader contents))

/-! ## 読む -/

/-- 一行を trim し、空行と `#` で始まる行は飛ばす。 -/
def editRow (v : String) : Option String :=
  let row := trimSpace v
  if hasPrefix row "#" || row == "" then none else some row

/-- `strings.Split(row, "=")` がちょうど二つに割れたときの key と値。 -/
def splitKeyValue (row : String) : Option (String × String) :=
  match split row '=' with
  | [key, value] => some (key, value)
  | _ => none

/-- 値の両端から `"` を、続けて `'` を落とす。 -/
def trimQuotes (s : String) : String := trim (trim s "\"") "'"

/-- 形の崩れた行の error。Go は trim する前の行を書く。 -/
def invalidRowError (v : String) : String :=
  "invalid row: " ++ v ++ ", format should be \"key=value\""

/-- 表にない key の error。 -/
def invalidKeyError (key : String) : String := "invalid key: " ++ key

/-- `applyChanges` の loop の一回分。 -/
def applyRow (r : EditRun) (v : String) : EditRun × Except String Unit :=
  match editRow v with
  | none => (r, .ok ())
  | some row =>
    let r := r.addTarget row
    match splitKeyValue row with
    | none => (r, .error (invalidRowError v))
    | some (key, value) =>
      match r.o.editContentKeyMap key with
      | none => (r, .error (invalidKeyError key))
      | some updateFn =>
        let r := r.emit (.call key (trimQuotes value))
        match updateFn r.policy (trimQuotes value) with
        | .error e => (r, .error e)
        | .ok p => ({ r with policy := p }, .ok ())

/-- `applyChanges` の loop。最初の error で止まる。 -/
def applyRows (r : EditRun) : List String → EditRun × Except String Unit
  | [] => (r, .ok ())
  | v :: vs =>
    match applyRow r v with
    | (r, .ok ()) => applyRows r vs
    | (r, .error e) => (r, .error e)

/-- 列を二つに分けて読んでも同じ。前半が error で止まれば後半は読まない。 -/
theorem applyRows_append (r : EditRun) (xs ys : List String) :
    applyRows r (xs ++ ys) =
      match applyRows r xs with
      | (r, .ok ()) => applyRows r ys
      | (r, .error e) => (r, .error e) := by
  induction xs generalizing r with
  | nil => rfl
  | cons v xs ih =>
    rw [List.cons_append, applyRows, applyRows]
    match applyRow r v with
    | (r', .ok ()) => exact ih r'
    | (r', .error e) => rfl

/-- `applyChanges`。`original` と `target` の文字列が同じなら書かない。 -/
def applyChanges (r : EditRun) : EditRun × Except String Unit :=
  match applyRows r r.o.values with
  | (r, .error e) => (r, .error e)
  | (r, .ok ()) =>
    if r.o.original = r.o.target then (r.emit (.print "updated (no change)"), .ok ())
    else
      let r := r.emit (.update r.policy)
      match r.o.dynamic.update r.policy with
      | .error e => (r, .error e)
      | .ok () => (r.emit (.print "updated"), .ok ())

/-- `runEditBackupPolicy`。外から見えるのは作用の列と返した `error`。`--set` がなければ
編集器の本文を改行で割って `values` にする。 -/
def runEditBackupPolicy (editor : Editor) (o : EditBackupPolicyOptions) :
    List Effect × Except String Unit :=
  match o.dynamic.getBackupPolicy ⟨o.ns, o.name⟩ with
  | .error e => ([], .error e)
  | .ok p =>
    if o.values = [] then
      match runWithEditor editor o p with
      | (_, .error e) => ([], .error e)
      | (o, .ok edited) =>
        let r := applyChanges ⟨{ o with values := split edited '\n' }, p, []⟩
        (r.1.effects, r.2)
    else
      let r := applyChanges ⟨o, p, []⟩
      (r.1.effects, r.2)

/-- 編集器を開く場合の `runEditBackupPolicy`。描いた行を `original` に足し、編集器が返した
本文を改行で割って読む。 -/
theorem runEditBackupPolicy_editor {editor : Editor} {o : EditBackupPolicyOptions}
    {p : BackupPolicy} (hp : o.dynamic.getBackupPolicy ⟨o.ns, o.name⟩ = .ok p)
    (hv : o.values = []) (ht : o.isTest = false) :
    runEditBackupPolicy editor o =
      let rows := editorRows o.editContent p.spec
      match editor (p.meta.name ++ "-edit-") (addHeader (join rows "\n")) with
      | .error e => ([], .error e)
      | .ok edited =>
        let o' := { o with original := rows.foldl (· ++ ·) o.original }
        let r := applyChanges ⟨{ o' with values := split edited '\n' }, p, []⟩
        (r.1.effects, r.2) := by
  simp only [runEditBackupPolicy, hp, hv, runWithEditor, buildEditorContent, ht, ↓reduceIte,
    Bool.false_eq_true]
  cases editor (p.meta.name ++ "-edit-") (addHeader (join (editorRows o.editContent p.spec) "\n"))
    <;> rfl

/-- `--set` の値がある場合の `runEditBackupPolicy`。編集器は開かず、`original` は空のまま。 -/
theorem runEditBackupPolicy_set {editor : Editor} {o : EditBackupPolicyOptions}
    {p : BackupPolicy} (hp : o.dynamic.getBackupPolicy ⟨o.ns, o.name⟩ = .ok p)
    (hv : o.values ≠ []) :
    runEditBackupPolicy editor o =
      ((applyChanges ⟨o, p, []⟩).1.effects, (applyChanges ⟨o, p, []⟩).2) := by
  simp only [runEditBackupPolicy, hp, hv, if_false]

end Kbcli.Cluster
