import Mathlib
import TypstMarkup.Proofs.Markup.Tree

/-!
Texts in math that can be read back. The text of a plain value is the text of no other tree, and it
can be told where the text ends when a comma, a semicolon or a line feed follows, whatever the
strings in the value and the parameters and the unit of indentation of the context are.
-/
namespace TypstMarkup.Markup

/-! ### Sequences -/

def StartsIn (stops text : List Char) : Prop :=
  ∃ c ∈ stops, ∃ rest, text = c :: rest

theorem StartsIn.cons {stops text : List Char} (starts : StartsIn stops text) (c : Char) :
    StartsIn (c :: stops) text := by
  obtain ⟨d, listed, rest, same⟩ := starts
  exact ⟨d, List.mem_cons_of_mem c listed, rest, same⟩

theorem startsIn_cons_iff {stops rest : List Char} {c : Char} :
    StartsIn stops (c :: rest) ↔ c ∈ stops := by
  simp [StartsIn]

section

variable {α : Type} {code : α → List Char} {mark : Char} {gap stops : List Char}

/-- Where one of some characters follows, an item can be told from all others, and its end can be
told. -/
def Readable (stops : List Char) (code : α → List Char) (x : α) : Prop :=
  ∀ y rest rest', StartsIn stops rest → StartsIn stops rest' →
    code x ++ rest = code y ++ rest' → x = y ∧ rest = rest'

theorem intercalate_cons (delimiter first : List Char) (rest : List (List Char)) :
    delimiter.intercalate (first :: rest) = first ++ rest.flatMap (delimiter ++ ·) := by
  induction rest generalizing first with
  | nil => simp
  | cons second rest ih =>
    rw [List.intercalate_cons_cons, ih second, List.flatMap_cons, List.append_assoc,
      List.append_assoc]

theorem startsIn_tail {rest : List Char} (xs : List α) (ends : StartsIn stops rest) :
    StartsIn (mark :: stops) (xs.flatMap (fun x => mark :: gap ++ code x) ++ rest) := by
  cases xs with
  | nil => exact ends.cons mark
  | cons x xs => exact ⟨mark, List.mem_cons_self, _, rfl⟩

theorem readable_tail (fresh : mark ∉ stops) {xs : List α}
    (each : ∀ x ∈ xs, Readable (mark :: stops) code x) :
    Readable stops (fun xs : List α => xs.flatMap fun x => mark :: gap ++ code x) xs := by
  induction xs with
  | nil =>
    intro ys rest rest' ends _ same
    cases ys with
    | nil => exact ⟨rfl, same⟩
    | cons y ys =>
      cases (show rest = _ from same)
      exact absurd (startsIn_cons_iff.1 ends) fresh
  | cons x xs ih =>
    intro ys rest rest' ends ends' same
    cases ys with
    | nil =>
      cases (show _ = rest' from same)
      exact absurd (startsIn_cons_iff.1 ends') fresh
    | cons y ys =>
      simp only [List.flatMap_cons, List.cons_append, List.append_assoc] at same
      have behind := List.append_cancel_left (List.cons.inj same).2
      obtain ⟨rfl, later⟩ := each x List.mem_cons_self y _ _ (startsIn_tail xs ends)
        (startsIn_tail ys ends') behind
      obtain ⟨rfl, last⟩ := ih (fun x member => each x (List.mem_cons_of_mem _ member)) ys rest
        rest' ends ends' later
      exact ⟨rfl, last⟩

theorem readable_cons (fresh : mark ∉ stops) {x y : α} {xs ys : List α} {rest rest' : List Char}
    (each : ∀ z ∈ x :: xs, Readable (mark :: stops) code z) (ends : StartsIn stops rest)
    (ends' : StartsIn stops rest')
    (same : (mark :: gap).intercalate ((x :: xs).map code) ++ rest =
      (mark :: gap).intercalate ((y :: ys).map code) ++ rest') :
    (x = y ∧ xs = ys) ∧ rest = rest' := by
  rw [List.map_cons, List.map_cons, intercalate_cons, intercalate_cons, List.append_assoc,
    List.append_assoc, List.flatMap_map, List.flatMap_map] at same
  obtain ⟨first, later⟩ := each x List.mem_cons_self y _ _ (startsIn_tail xs ends)
    (startsIn_tail ys ends') same
  obtain ⟨others, last⟩ := readable_tail fresh
    (fun z member => each z (List.mem_cons_of_mem _ member)) ys rest rest' ends ends' later
  exact ⟨⟨first, others⟩, last⟩

/-- Items that are joined can be told apart if the delimiter cannot be confused with what follows
the last item, and no item with what follows an empty sequence. -/
theorem readable_join (fresh : mark ∉ stops)
    (visible : ∀ x rest, ¬ StartsIn stops (code x ++ rest)) {xs : List α}
    (each : ∀ x ∈ xs, Readable (mark :: stops) code x) :
    Readable stops (fun xs : List α => (mark :: gap).intercalate (xs.map code)) xs := by
  intro ys rest rest' ends ends' same
  dsimp only at same
  cases xs with
  | nil =>
    cases ys with
    | nil => exact ⟨rfl, same⟩
    | cons y ys =>
      rw [List.map_cons, intercalate_cons, List.append_assoc] at same
      cases (show rest = _ from same)
      exact absurd ends (visible y _)
  | cons x xs =>
    cases ys with
    | nil =>
      rw [List.map_cons, intercalate_cons, List.append_assoc] at same
      cases (show _ = rest' from same)
      exact absurd ends' (visible x _)
    | cons y ys =>
      obtain ⟨⟨rfl, rfl⟩, last⟩ := readable_cons fresh each ends ends' same
      exact ⟨rfl, last⟩

end

theorem delimiter_cases {c : Char} (listed : c ∈ [',', ';', '\n']) :
    c = ',' ∨ c = ';' ∨ c = '\n' := by
  simpa using listed

/-! ### Numbers -/

def isNumeric (c : Char) : Bool :=
  c.isDigit || c == '-'

theorem isNumeric_of_mem {n : Int} {c : Char} (member : c ∈ (toString n).toList) :
    isNumeric c = true := by
  rw [Int.toString_eq_repr, Int.repr_eq_if] at member
  have digit {k : Nat} (member : c ∈ k.repr.toList) : isNumeric c = true := by
    rw [Nat.toList_repr] at member
    rw [isNumeric, Nat.isDigit_of_mem_toDigits (by decide) (by decide) member, Bool.true_or]
  split at member
  · exact digit member
  · rw [String.toList_append] at member
    rcases List.mem_append.1 member with sign | later
    · rw [List.mem_singleton.1 sign]
      rfl
    · exact digit later

theorem numeral_eq_cons (n : Int) :
    ∃ c rest, (toString n).toList = c :: rest ∧ isNumeric c = true := by
  have digits (k : Nat) : k.repr.toList ≠ [] := by
    rw [Nat.toList_repr]
    exact Nat.toDigits_ne_nil
  have some : (toString n).toList ≠ [] := by
    rw [Int.toString_eq_repr, Int.repr_eq_if]
    split
    · exact digits _
    · rw [String.toList_append]
      exact List.append_ne_nil_of_right_ne_nil _ (digits _)
  obtain ⟨c, rest, same⟩ := List.exists_cons_of_ne_nil some
  exact ⟨c, rest, same, isNumeric_of_mem (by rw [same]; exact List.mem_cons_self)⟩

theorem takeWhile_numeral (n : Int) {rest : List Char} (stop : rest.takeWhile isNumeric = []) :
    ((toString n).toList ++ rest).takeWhile isNumeric = (toString n).toList := by
  rw [List.takeWhile_append_of_pos fun c member => isNumeric_of_mem member, stop, List.append_nil]

theorem numeral_append_inj {n m : Int} {rest rest' : List Char}
    (stop : rest.takeWhile isNumeric = []) (stop' : rest'.takeWhile isNumeric = [])
    (same : (toString n).toList ++ rest = (toString m).toList ++ rest') :
    n = m ∧ rest = rest' := by
  have digits : (toString n).toList = (toString m).toList := by
    rw [← takeWhile_numeral n stop, same, takeWhile_numeral m stop']
  refine ⟨?_, ?_⟩
  · rw [String.toList_inj, Int.toString_eq_repr, Int.toString_eq_repr] at digits
    exact Int.repr_inj.1 digits
  · rw [digits] at same
    exact List.append_cancel_left same

/-! ### Strings -/

/-- What stands behind the opening quotes of a string: its text, the closing quotes, and a rest. -/
def behindQuotes (text rest : List Char) : List Char :=
  replaceQuotes (escapedQuote 3) text ++ '\\' :: '"' :: '"' :: rest

theorem behindQuotes_quote (text rest : List Char) :
    behindQuotes ('"' :: text) rest = '\\' :: '\\' :: '\\' :: '"' :: behindQuotes text rest :=
  rfl

theorem behindQuotes_other {c : Char} (other : c ≠ '"') (text rest : List Char) :
    behindQuotes (c :: text) rest = c :: behindQuotes text rest := by
  simp [behindQuotes, replaceQuotes, other]

theorem behindQuotes_ne_quote (text rest later : List Char) :
    behindQuotes text rest ≠ '"' :: later := by
  intro same
  cases text with
  | nil => cases same
  | cons c text =>
    by_cases quote : c = '"'
    · subst quote
      cases same
    · rw [behindQuotes_other quote] at same
      exact quote (List.cons.inj same).1

/-- A quote behind fewer than three backslashes is the first of the closing quotes. -/
theorem closes_of_behindQuotes {text rest later : List Char} {count : Nat} (few : count < 3)
    (same : behindQuotes text rest = List.replicate count '\\' ++ '"' :: later) :
    later = '"' :: rest := by
  induction count generalizing text with
  | zero => exact absurd same (behindQuotes_ne_quote text rest later)
  | succ count ih =>
    rw [List.replicate_succ, List.cons_append] at same
    cases text with
    | nil =>
      cases count with
      | zero =>
        cases same
        rfl
      | succ count => cases same
    | cons c text =>
      by_cases quote : c = '"'
      · subst quote
        rcases count with _ | _ | count
        · cases same
        · cases same
        · omega
      · rw [behindQuotes_other quote] at same
        exact ih (by omega) (List.cons.inj same).2

theorem behindQuotes_nil_ne_cons (c : Char) (text rest rest' : List Char) :
    behindQuotes [] rest ≠ behindQuotes (c :: text) rest' := by
  intro same
  by_cases quote : c = '"'
  · subst quote
    cases same
  · rw [behindQuotes_other quote] at same
    exact behindQuotes_ne_quote text rest' _ (List.cons.inj same).2.symm

theorem behindQuotes_quote_ne_other {c : Char} (other : c ≠ '"') (a b rest rest' : List Char) :
    behindQuotes ('"' :: a) rest ≠ behindQuotes (c :: b) rest' := by
  intro same
  rw [behindQuotes_quote, behindQuotes_other other] at same
  -- The other character is a backslash, so two more of the three are left before the quote.
  have closed : behindQuotes a rest = '"' :: rest' :=
    closes_of_behindQuotes (show 2 < 3 by decide) (List.cons.inj same).2.symm
  exact behindQuotes_ne_quote a rest rest' closed

theorem behindQuotes_inj {a b rest rest' : List Char}
    (same : behindQuotes a rest = behindQuotes b rest') : a = b ∧ rest = rest' := by
  induction a generalizing b with
  | nil =>
    cases b with
    | nil =>
      cases same
      exact ⟨rfl, rfl⟩
    | cons d b => exact absurd same (behindQuotes_nil_ne_cons d b rest rest')
  | cons c a ih =>
    cases b with
    | nil => exact absurd same.symm (behindQuotes_nil_ne_cons c a rest' rest)
    | cons d b =>
      by_cases quote : c = '"' <;> by_cases quote' : d = '"'
      · subst quote quote'
        simp only [behindQuotes_quote, List.cons.injEq, true_and] at same
        obtain ⟨rfl, last⟩ := ih same
        exact ⟨rfl, last⟩
      · subst quote
        exact absurd same (behindQuotes_quote_ne_other quote' a b rest rest')
      · subst quote'
        exact absurd same.symm (behindQuotes_quote_ne_other quote b a rest' rest)
      · rw [behindQuotes_other quote, behindQuotes_other quote'] at same
        obtain ⟨rfl, later⟩ := List.cons.inj same
        obtain ⟨rfl, last⟩ := ih later
        exact ⟨rfl, last⟩

/-! ### Trees -/

/-- What the first characters of a text tell about its tree. -/
inductive Mark where
  | null | bool | int | fraction | str | vector | matrix

def Tree.mark : Tree → Mark
  | .null => .null
  | .bool _ => .bool
  | .int _ => .int
  | .fraction _ => .fraction
  | .str _ => .str
  | .vector _ => .vector
  | .matrix _ _ => .matrix

def markOf : List Char → Mark
  | '"' :: '"' :: _ => .null
  | '"' :: '\\' :: _ => .str
  | '"' :: _ => .bool
  | '(' :: _ => .fraction
  | 'v' :: _ => .vector
  | 'm' :: _ => .matrix
  | _ => .int

theorem markOf_numeric {c : Char} (numeric : isNumeric c = true) (rest : List Char) :
    markOf (c :: rest) = .int := by
  unfold markOf
  split
  case h_7 => rfl
  all_goals
    rename_i same
    cases same
    exact absurd numeric (by decide)

namespace Tree

variable {σ : Style} {depth : Nat}

theorem markOf_text (t : Tree) (rest : List Char) : markOf (t.text σ depth ++ rest) = t.mark := by
  cases t with
  | null => rfl
  | bool b => cases b <;> rfl
  | int n =>
    obtain ⟨c, more, same, numeric⟩ := numeral_eq_cons n
    rw [text, same]
    exact markOf_numeric numeric _
  | fraction q => rfl
  | str text => rfl
  | vector items =>
    obtain ⟨rest, same⟩ := List.head?_eq_some_iff.1 σ.vector_head
    rw [text, same]
    rfl
  | matrix first rest =>
    obtain ⟨rest, same⟩ := List.head?_eq_some_iff.1 σ.matrix_head
    rw [text, same]
    rfl

theorem mark_eq {t u : Tree} {rest rest' : List Char}
    (same : t.text σ depth ++ rest = u.text σ depth ++ rest') : t.mark = u.mark := by
  rw [← markOf_text t rest, same, markOf_text]

/-- No text of a tree starts with a character that may follow it. -/
theorem not_startsIn_text (t : Tree) (rest : List Char) :
    ¬ StartsIn [',', ';', '\n'] (t.text σ depth ++ rest) := by
  rintro ⟨c, listed, more, same⟩
  have marked : t.mark = .int := by
    rw [← markOf_text t rest, same]
    rcases delimiter_cases listed with rfl | rfl | rfl <;> rfl
  cases t with
  | int n =>
    obtain ⟨d, digits, written, numeric⟩ := numeral_eq_cons n
    rw [text, written] at same
    cases same
    rcases delimiter_cases listed with rfl | rfl | rfl <;> cases numeric
  | _ => cases marked

theorem takeWhile_isNumeric {rest : List Char} (starts : StartsIn [',', ';', '\n'] rest) :
    rest.takeWhile isNumeric = [] := by
  obtain ⟨c, listed, more, rfl⟩ := starts
  rcases delimiter_cases listed with rfl | rfl | rfl <;> rfl

theorem startsIn_closing {stops : List Char} (listed : '\n' ∈ stops) (rest : List Char) :
    StartsIn stops (σ.closing depth ++ rest) :=
  ⟨'\n', listed, _, rfl⟩

theorem readable_row {row : List Tree}
    (each : ∀ t ∈ row, Readable [',', ';', '\n'] (text σ depth) t) :
    Readable [';', '\n'] (fun row => σ.row depth (texts σ depth row)) row := by
  intro other rest rest' ends ends' same
  simp only [Style.row, List.append_assoc, texts_eq_map] at same
  have visible (t : Tree) (rest : List Char) :
      ¬ StartsIn [';', '\n'] (t.text σ depth ++ rest) :=
    fun starts => not_startsIn_text t rest (starts.cons ',')
  exact readable_join (by decide) visible each other rest rest' ends ends'
    (List.append_cancel_left same)

theorem readable_int (n : Int) : Readable [',', ';', '\n'] (text σ depth) (.int n) := by
  intro u rest rest' ends ends' same
  have marks := mark_eq same
  cases u with
  | int m =>
    obtain ⟨rfl, last⟩ :=
      numeral_append_inj (takeWhile_isNumeric ends) (takeWhile_isNumeric ends') same
    exact ⟨rfl, last⟩
  | _ => cases marks

theorem readable_fraction (q : Rat) :
    Readable [',', ';', '\n'] (text σ depth) (.fraction q) := by
  intro u rest rest' _ _ same
  have marks := mark_eq same
  cases u with
  | fraction q' =>
    simp only [text, List.cons_append, List.nil_append, List.append_assoc, List.cons.injEq,
      true_and] at same
    obtain ⟨numerators, divided⟩ := numeral_append_inj rfl rfl same
    simp only [List.cons.injEq, true_and] at divided
    obtain ⟨denominators, closed⟩ := numeral_append_inj rfl rfl divided
    have quotients : q = q' := Rat.ext numerators (Int.ofNat_inj.1 denominators)
    exact ⟨congrArg Tree.fraction quotients, (List.cons.inj closed).2⟩
  | _ => cases marks

theorem readable_str (a : String) : Readable [',', ';', '\n'] (text σ depth) (.str a) := by
  intro u rest rest' _ _ same
  have marks := mark_eq same
  cases u with
  | str b =>
    simp only [text, List.append_assoc] at same
    obtain ⟨texts, last⟩ := behindQuotes_inj (List.append_cancel_left same)
    rw [String.toList_inj] at texts
    exact ⟨congrArg Tree.str texts, last⟩
  | _ => cases marks

theorem readable_vector {items : List Tree}
    (each : ∀ t ∈ items, Readable [',', ';', '\n'] (text σ (depth + 1)) t) :
    Readable [',', ';', '\n'] (text σ depth) (.vector items) := by
  intro u rest rest' _ _ same
  have marks := mark_eq same
  cases u with
  | vector items' =>
    simp only [text, List.append_assoc] at same
    obtain ⟨rfl, closed⟩ := readable_row each items' _ _ (startsIn_closing (by decide) rest)
      (startsIn_closing (by decide) rest') (List.append_cancel_left same)
    exact ⟨rfl, List.append_cancel_left closed⟩
  | _ => cases marks

theorem readable_matrix {first : List Tree} {rows : List (List Tree)}
    (each : ∀ row ∈ first :: rows, ∀ t ∈ row,
      Readable [',', ';', '\n'] (text σ (depth + 1)) t) :
    Readable [',', ';', '\n'] (text σ depth) (.matrix first rows) := by
  intro u rest rest' _ _ same
  have marks := mark_eq same
  cases u with
  | matrix first' rows' =>
    simp only [text_matrix, List.append_assoc] at same
    obtain ⟨⟨rfl, rfl⟩, closed⟩ := readable_cons (show ';' ∉ ['\n'] by decide)
      (fun row listed => readable_row (each row listed)) (startsIn_closing (by decide) rest)
      (startsIn_closing (by decide) rest') (List.append_cancel_left same)
    exact ⟨rfl, List.append_cancel_left closed⟩
  | _ => cases marks

theorem readable_text (t : Tree) (depth : Nat) :
    Readable [',', ';', '\n'] (text σ depth) t := by
  induction t generalizing depth with
  | null =>
    intro u rest rest' _ _ same
    have marks := mark_eq same
    cases u with
    | null => exact ⟨rfl, List.append_cancel_left same⟩
    | _ => cases marks
  | bool b =>
    intro u rest rest' _ _ same
    have marks := mark_eq same
    cases u with
    | bool b' =>
      cases b <;> cases b' <;> first | exact ⟨rfl, List.append_cancel_left same⟩ | cases same
    | _ => cases marks
  | int n => exact readable_int n
  | fraction q => exact readable_fraction q
  | str a => exact readable_str a
  | vector items ih => exact readable_vector fun t member => ih t member (depth + 1)
  | matrix first rows ih =>
    exact readable_matrix fun row listed t member => ih row listed t member (depth + 1)

end Tree

/-- Plain values with the same text in math have the same tree. -/
theorem tree_eq_of_write_eq {r : Registry} (plain : r.IsBuiltin) {c : Context}
    (math : c.mode = .ok .math) {v w : Value} {t u : Tree} {s : List Char}
    (first : Tree.ofValue? v = some t) (second : Tree.ofValue? w = some u)
    (written : write r v c = .text s) (written' : write r w c = .text s) : t = u := by
  have same : t.text (Style.of c) (depthOf c) = u.text (Style.of c) (depthOf c) := by
    rw [← shows_value plain v c t s math first written,
      ← shows_value plain w c u s math second written']
  -- An end can be told in front of a delimiter only, so a line feed is put behind both texts.
  have ended : StartsIn [',', ';', '\n'] ['\n'] := startsIn_cons_iff.2 (by decide)
  exact (Tree.readable_text t (depthOf c) u ['\n'] ['\n'] ended ended (by rw [same])).1

/-- Settings whose unit of indentation looks like an element and a delimiter. -/
def oddlyIndented : Context :=
  OrderedMap.ofList [("mode", .mode .math), ("inline", .bool true), ("indent", .str "\", "),
    ("depth", .int 2), ("delim", .str "\"[\"")]

def listed : Value :=
  .list [.str "\\\", \"", .matrix [[.int (-3), .null], []], .tuple [.bool true]]

def tupled : Value :=
  .tuple [.str "\\\", \"", .matrix [[.int (-3), .null], []], .list [.bool true]]

theorem tree_eq_of_tupled :
    ∃ t u s, oddlyIndented.mode = .ok .math ∧ Tree.ofValue? listed = some t ∧
      Tree.ofValue? tupled = some u ∧ write .builtin listed oddlyIndented = .text s ∧
      write .builtin tupled oddlyIndented = .text s ∧ t = u := by
  have whole {e : Emission} (none : e.fault.isNone = true) : e = .text e.written := by
    obtain ⟨written, fault⟩ := e
    cases fault with
    | none => rfl
    | some f => cases none
  have written := whole (e := write .builtin listed oddlyIndented) (by decide +kernel)
  have written' := whole (e := write .builtin tupled oddlyIndented) (by decide +kernel)
  have same : (write .builtin tupled oddlyIndented).written =
      (write .builtin listed oddlyIndented).written := by decide +kernel
  rw [same] at written'
  have plain : Registry.builtin.IsBuiltin := ⟨rfl, rfl, fun _ _ => rfl⟩
  exact ⟨_, _, _, rfl, rfl, rfl, written, written',
    tree_eq_of_write_eq plain rfl (v := listed) (w := tupled) rfl rfl written written'⟩

end TypstMarkup.Markup
