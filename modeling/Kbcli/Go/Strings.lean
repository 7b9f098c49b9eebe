import Mathlib.Data.List.DropRight

/-!
# Go の `strings` と `map`

`kbcli` の edit 系コマンドが使う Go 標準ライブラリの関数を、`String` の中身
（`List Char`）の上で書く。Go の文字列は byte 列だが、ここで扱う入力はどれも
UTF-8 として正しく、区切りはすべて ASCII なので、rune の列として読んでよい。

* `strings.TrimSpace` は `unicode.IsSpace` の文字を両端から落とす。
  Lean の `String.trim` は空白を四つしか知らないので使わない。
* `strings.Split` は区切りが一文字の呼び出ししかないので、`List.splitOn` で足りる。
  空文字列は `[""]` に、区切り `k` 個の文字列は `k + 1` 個に分かれる。

往復の証明に要るのは `split_append_cons`（区切り一つで列が繋がる）と
`split_join`（`Join` の逆）の二つである。
-/

namespace Go

/-! ## 空白と trim -/

/-- `unicode.IsSpace`。Latin-1 では `\t`〜`\r`、空白、U+0085、U+00A0。それより上は
White_Space の表にある十六文字。 -/
def isSpace (c : Char) : Bool :=
  let n := c.toNat
  (0x09 ≤ n && n ≤ 0x0D) || n == 0x20 || n == 0x85 || n == 0xA0 || n == 0x1680 ||
    (0x2000 ≤ n && n ≤ 0x200A) || n == 0x2028 || n == 0x2029 || n == 0x202F || n == 0x205F ||
    n == 0x3000

/-- 両端から `p` を満たす文字を落とす（`strings.TrimFunc`）。 -/
def trimBy (p : Char → Bool) (l : List Char) : List Char :=
  ((l.dropWhile p).reverse.dropWhile p).reverse

/-- `strings.TrimSpace`。 -/
def trimSpace (s : String) : String := ⟨trimBy isSpace s.data⟩

/-- `strings.Trim`。`cutset` に入る文字を両端から落とす。 -/
def trim (s cutset : String) : String := ⟨trimBy (fun c => cutset.data.contains c) s.data⟩

/-- `strings.HasPrefix`。 -/
def hasPrefix (s pre : String) : Bool := pre.data.isPrefixOf s.data

/-- 両端の文字が `p` を満たさなければ、trim は何もしない。 -/
theorem trimBy_of_ends {p : Char → Bool} {l : List Char}
    (hh : ∀ c, l.head? = some c → p c = false) (hl : ∀ c, l.getLast? = some c → p c = false) :
    trimBy p l = l := by
  have hd : l.dropWhile p = l := List.dropWhile_eq_self_iff.mpr fun h0 => by
    cases l with
    | nil => simp at h0
    | cons c rest => simpa using hh c rfl
  show List.rdropWhile p (l.dropWhile p) = l
  rw [hd, List.rdropWhile_eq_self_iff]
  exact fun hne => by simpa using hl _ (List.getLast?_eq_getLast l hne)

/-! ## Split と Join -/

/-- `strings.Split`。区切りはどの呼び出しでも一文字なので `Char` で受ける。 -/
def split (s : String) (sep : Char) : List String := (s.data.splitOn sep).map String.mk

/-- `strings.Join`。 -/
def join (elems : List String) (sep : String) : String :=
  ⟨sep.data.intercalate (elems.map String.data)⟩

theorem modifyHead_append {α : Type} (f : α → α) {l₁ : List α} (l₂ : List α) (h : l₁ ≠ []) :
    (l₁ ++ l₂).modifyHead f = l₁.modifyHead f ++ l₂ := by
  cases l₁ with
  | nil => exact absurd rfl h
  | cons a l₁ => rfl

/-- 区切り一つを挟んだ列は、それぞれの分割を繋いだものに分かれる。 -/
theorem splitOn_append_cons (sep : Char) (a b : List Char) :
    (a ++ sep :: b).splitOn sep = a.splitOn sep ++ b.splitOn sep := by
  induction a with
  | nil => simp [List.splitOn, List.splitOnP_cons]
  | cons c a ih =>
    simp only [List.splitOn] at ih ⊢
    rw [List.cons_append, List.splitOnP_cons, List.splitOnP_cons, ih]
    split
    · rfl
    · exact modifyHead_append _ _ (List.splitOnP_ne_nil _ _)

theorem split_append_cons (sep : Char) (a b : String) :
    split (a ++ ⟨[sep]⟩ ++ b) sep = split a sep ++ split b sep := by
  simp [split, splitOn_append_cons]

theorem split_of_not_mem {sep : Char} {s : String} (h : sep ∉ s.data) : split s sep = [s] := by
  rw [split, List.splitOn, List.splitOnP_eq_single]
  · rfl
  · intro c hc hce
    exact h (by simpa using (beq_iff_eq.mp hce) ▸ hc)

@[simp] theorem split_empty (sep : Char) : split "" sep = [""] := rfl

@[simp] theorem join_nil (sep : String) : join [] sep = "" := rfl

@[simp] theorem join_singleton (s sep : String) : join [s] sep = s := by
  simp [join, List.intercalate]

/-- 区切りを含まない要素を `Join` したものは、`Split` で元に戻る。 -/
theorem split_join {sep : Char} {rows : List String} (hne : rows ≠ [])
    (h : ∀ r ∈ rows, sep ∉ r.data) : split (join rows ⟨[sep]⟩) sep = rows := by
  rw [split, join, List.splitOn_intercalate]
  · simp [Function.comp_def]
  · simpa using h
  · simpa using hne

/-! ## map -/

/-- Go の `map[κ]ν`。ない key を引くと `none`。`m[k] = v` は `Function.update m k (some v)`。 -/
abbrev GoMap (κ ν : Type) := κ → Option ν

/-- `make(map[κ]ν)`。 -/
def GoMap.empty {κ ν : Type} : GoMap κ ν := fun _ => none

@[simp] theorem GoMap.empty_apply {κ ν : Type} (k : κ) : (GoMap.empty : GoMap κ ν) k = none :=
  rfl

end Go
