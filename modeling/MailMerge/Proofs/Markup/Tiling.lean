/-
# Lexemes tile the markup

Lexing a markup goes through it from its start: a gap is passed over, the longest lexeme is taken,
and where none can be taken the run ends (`outcome_lexFrom`).

| outcome | what it says |
| --- | --- |
| lexemes | they stand one behind the other with only gaps around them, each the longest of its place |
| a span | the text in front of it is made of lexemes, and no lexeme can be taken where it starts |

So a markup has exactly the lexemes that tile it (`lex_eq_ok_iff`), and they are fixed by the forms of
`Spelled` alone. A lexeme is one on its own as well: the slice at its span has this lexeme and no
other (`lex_tiles`).
-/

import MailMerge.Proofs.Markup.LongestMatch
import MailMerge.Proofs.Tree.Spans

namespace MailMerge
namespace Markup

open Text (Span byteSize)

/-! ### Steps -/

/-- **Lexemes that tile a text** which starts at `place` and has `rest` behind it: gaps and longest
lexemes, one behind the other. -/
inductive Tiles (rest : List Char) : Nat → List Char → List Placed → Prop
  | nil {place : Nat} : Tiles rest place [] []
  | gap {place : Nat} {c : Char} {cs : List Char} {placed : List Placed} (gap : isGap c = true)
      (later : Tiles rest (place + c.utf8Size) cs placed) : Tiles rest place (c :: cs) placed
  | lexeme {place : Nat} {text cs : List Char} {lexeme : Lexeme} {placed : List Placed}
      (longest : Longest (text ++ (cs ++ rest)) text (some lexeme))
      (later : Tiles rest (place + byteSize text) cs placed) :
      Tiles rest place (text ++ cs) (⟨lexeme, place, place + byteSize text⟩ :: placed)

/-- **How lexing can end:** the whole text is tiled, or what stands in front of a part is tiled and
that part cannot be taken. -/
inductive Outcome (place : Nat) : List Char → Except Span (List Placed) → Prop
  | ok {cs : List Char} {placed : List Placed} (tiles : Tiles [] place cs placed) :
      Outcome place cs (.ok placed)
  | error {front part rest : List Char} {placed : List Placed}
      (tiles : Tiles (part ++ rest) place front placed) (blocked : Blocked (part ++ rest) part) :
      Outcome place (front ++ (part ++ rest))
        (.error ⟨place + byteSize front, place + byteSize front + byteSize part⟩)

/-- No lexeme starts with a gap. -/
theorem Spelled.solid {c : Char} {cs : List Char} {lexeme : Option Lexeme}
    (h : Spelled (c :: cs) lexeme) : isGap c = false := by
  have solid : ∀ entry ∈ signs, entry.1.toList.head?.any isGap = false := by decide
  refine Bool.eq_false_iff.2 fun gap => ?_
  have kind : kindOf c = .sign := by rcases isGap_iff.1 gap with rfl | rfl | rfl | rfl <;> rfl
  have form := h.form_of_prefix (List.prefix_refl _)
  rw [kind] at form
  obtain ⟨entry, mem, same⟩ := form
  have first := solid entry mem
  rw [← same] at first
  exact Bool.eq_false_iff.1 first gap

section

variable {place : Nat} {c : Char} {cs text part rest : List Char}

theorem lexFrom_gap (gap : isGap c = true) (place : Nat) (cs : List Char) :
    lexFrom place 0 (c :: cs) = lexFrom (place + c.utf8Size) 0 cs := by
  rw [lexFrom, if_pos gap]

/-- **The longest lexeme is taken,** and lexing goes on behind it. -/
theorem lexFrom_longest {lexeme : Lexeme} (longest : Longest (text ++ cs) text (some lexeme))
    (place : Nat) : lexFrom place 0 (text ++ cs) = (lexFrom (place + byteSize text) 0 cs).map
      (⟨lexeme, place, place + byteSize text⟩ :: ·) := by
  cases text with
  | nil => exact (longest.spelled.ne_nil rfl).elim
  | cons c body =>
    have scanned : scan c (body ++ cs) = .lexeme lexeme (body.length + 1) :=
      scan_eq_iff.2 ⟨c :: body, rfl, longest⟩
    have taken : (c :: (body ++ cs)).take (body.length + 1) = c :: body := by
      rw [List.take_succ_cons, List.take_left]
    rw [List.cons_append, lexFrom, if_neg (Bool.eq_false_iff.1 longest.spelled.solid), scanned]
    simp only [Nat.add_sub_cancel, lexFrom_passed, taken]
    rw [Nat.add_assoc, ← Text.byteSize_cons]
    cases lexFrom (place + byteSize (c :: body)) 0 cs <;> rfl

/-- **What cannot be taken is refused.** -/
theorem lexFrom_refused {length : Nat} (solid : isGap c = false) (scanned : scan c cs = .refused length)
    (place : Nat) : ∃ part rest, c :: cs = part ++ rest ∧ Blocked (part ++ rest) part ∧
      lexFrom place 0 (c :: cs) = .error ⟨place, place + byteSize part⟩ := by
  have right := right_scan c cs
  rw [scanned] at right
  obtain ⟨part, rfl, blocked⟩ := right
  obtain ⟨rest, whole⟩ := blocked.stands
  refine ⟨part, rest, whole.symm, by rwa [whole], ?_⟩
  rw [lexFrom, if_neg (Bool.eq_false_iff.1 solid), scanned]
  simp only [← whole, List.take_left]

end

/-! ### Runs -/

section

variable {place : Nat} {rest cs : List Char} {placed : List Placed}

theorem Outcome.gap {c : Char} {found : Except Span (List Placed)} (gap : isGap c = true)
    (h : Outcome (place + c.utf8Size) cs found) : Outcome place (c :: cs) found := by
  cases h with
  | ok tiles => exact .ok (.gap gap tiles)
  | error tiles blocked =>
    rw [Nat.add_assoc, ← Text.byteSize_cons]
    exact .error (.gap gap tiles) blocked

theorem Outcome.lexeme {text : List Char} {lexeme : Lexeme} {found : Except Span (List Placed)}
    (longest : Longest (text ++ cs) text (some lexeme)) (h : Outcome (place + byteSize text) cs found) :
    Outcome place (text ++ cs) (found.map (⟨lexeme, place, place + byteSize text⟩ :: ·)) := by
  cases h with
  | ok tiles => exact .ok (.lexeme (by rwa [List.append_nil]) tiles)
  | error tiles blocked =>
    rw [← List.append_assoc, Nat.add_assoc, ← Text.byteSize_append]
    exact .error (.lexeme longest tiles) blocked

/-- **A run of the lexer:** gaps are passed over and the longest lexemes are taken, up to the end or
to where none can be taken. -/
theorem outcome_lexFrom (place : Nat) (cs : List Char) : Outcome place cs (lexFrom place 0 cs) := by
  -- A lexeme is not empty, so less is left behind it.
  induction size : cs.length using Nat.strong_induction_on generalizing place cs with
  | _ n ih =>
    subst size
    cases cs with
    | nil => exact .ok .nil
    | cons c cs =>
      by_cases gap : isGap c = true
      · rw [lexFrom_gap gap]
        exact .gap gap (ih _ (Nat.lt_succ_self _) _ _ rfl)
      · cases scanned : scan c cs with
        | lexeme lexeme length =>
          obtain ⟨text, -, longest⟩ := scan_eq_iff.1 scanned
          obtain ⟨rest, whole⟩ := longest.stands
          have shorter : rest.length < (c :: cs).length := by
            rw [← whole, List.length_append]
            exact Nat.lt_add_of_pos_left (List.length_pos_of_ne_nil longest.spelled.ne_nil)
          rw [← whole] at longest ⊢
          rw [lexFrom_longest longest]
          exact .lexeme longest (ih _ shorter _ _ rfl)
        | refused length =>
          obtain ⟨part, rest, whole, blocked, refused⟩ :=
            lexFrom_refused (Bool.eq_false_iff.2 gap) scanned place
          rw [refused, whole]
          exact .error .nil blocked

/-- **What lexemes tile has these lexemes.** -/
theorem Tiles.lexed (h : Tiles [] place cs placed) : lexFrom place 0 cs = .ok placed := by
  induction h with
  | nil => rfl
  | gap gap later ih => rw [lexFrom_gap gap, ih]
  | lexeme longest later ih =>
    rw [List.append_nil] at longest
    rw [lexFrom_longest longest, ih]
    rfl

/-- Tiles stay tiles when what follows is cut off. -/
theorem Tiles.shorten (h : Tiles rest place cs placed) : Tiles [] place cs placed := by
  induction h with
  | nil => exact .nil
  | gap gap later ih => exact .gap gap ih
  | lexeme longest later ih => exact .lexeme (by rw [List.append_nil]; exact longest.shorten _) ih

/-! ### What tiles are like -/

/-- Each tile covers a longest lexeme. -/
theorem Tiles.covers (h : Tiles [] place cs placed) : ∀ one ∈ placed, ∃ before text after,
    cs = before ++ (text ++ after) ∧ one.span.start = place + byteSize before ∧
      one.span.stop = place + byteSize before + byteSize text ∧
      Longest (text ++ after) text (some one.lexeme) := by
  induction h with
  | nil => exact fun _ mem => (List.not_mem_nil mem).elim
  | gap gap later ih =>
    rename_i place c cs placed
    intro one mem
    obtain ⟨before, text, after, rfl, starts, stops, longest⟩ := ih one mem
    have moved : place + c.utf8Size + byteSize before = place + byteSize (c :: before) := Nat.add_assoc _ _ _
    rw [moved] at starts stops
    exact ⟨c :: before, text, after, rfl, starts, stops, longest⟩
  | lexeme longest later ih =>
    rename_i place text cs lexeme placed
    rw [List.append_nil] at longest
    refine List.forall_mem_cons.2 ⟨⟨[], text, cs, rfl, rfl, rfl, longest⟩, fun one mem => ?_⟩
    obtain ⟨before, text', after, rfl, starts, stops, longest'⟩ := ih one mem
    have moved : place + byteSize text + byteSize before = place + byteSize (text ++ before) := by
      rw [Text.byteSize_append, Nat.add_assoc]
    rw [moved] at starts stops
    exact ⟨text ++ before, text', after, (List.append_assoc _ _ _).symm, starts, stops, longest'⟩

/-- Tiles stand one behind the other. -/
theorem Tiles.ordered (h : Tiles [] place cs placed) :
    placed.Pairwise fun one next => one.span.stop ≤ next.span.start := by
  induction h with
  | nil => exact .nil
  | gap gap later ih => exact ih
  | lexeme longest later ih =>
    refine List.pairwise_cons.2 ⟨fun next mem => ?_, ih⟩
    obtain ⟨before, -, -, -, starts, -⟩ := later.covers next mem
    rw [starts]
    exact Nat.le_add_right _ _

/-- **Between tiles there are only gaps.** -/
theorem Tiles.gaps (h : Tiles [] place cs placed) {before after : List Char} {c : Char}
    (whole : cs = before ++ c :: after)
    (outside : ∀ one ∈ placed, ¬(one.span.start ≤ place + byteSize before ∧
      place + byteSize before < one.span.stop)) : isGap c = true := by
  induction h generalizing before with
  | nil => simp at whole
  | gap gap later ih =>
    cases before with
    | nil =>
      obtain ⟨rfl, -⟩ := List.cons.inj whole
      exact gap
    | cons d before =>
      obtain ⟨rfl, behind⟩ := List.cons.inj whole
      rw [Text.byteSize_cons, ← Nat.add_assoc] at outside
      exact ih behind outside
  | lexeme longest later ih =>
    rename_i place text cs lexeme placed
    obtain ⟨first, others⟩ := List.forall_mem_cons.1 outside
    -- The character is not in the first tile, so it stands behind it.
    have behind : ∃ more, before = text ++ more ∧ cs = more ++ c :: after := by
      rcases List.append_eq_append_iff.1 whole with found | ⟨more, inside, same⟩
      · exact found
      · cases more with
        | nil => exact ⟨[], by rw [inside, List.append_nil, List.append_nil], same.symm⟩
        | cons d more =>
          have positive := Char.utf8Size_pos d
          have within : place + byteSize before < place + byteSize text := by
            rw [inside, Text.byteSize_append, Text.byteSize_cons]
            omega
          exact (first ⟨Nat.le_add_right _ _, within⟩).elim
    obtain ⟨more, rfl, rfl⟩ := behind
    rw [Text.byteSize_append, ← Nat.add_assoc] at others
    exact ih rfl others

end

/-! ### Markups -/

/-- **A markup that is tiled by lexemes.** -/
structure TiledBy (markup : String) (placed : List Placed) : Prop where
  /-- No span is empty. -/
  nonempty : ∀ one ∈ placed, one.span.start < one.span.stop
  /-- The spans stand one behind the other. -/
  ordered : placed.Pairwise fun one next => one.span.stop ≤ next.span.start
  /-- A character that no span covers is a space, a tab or a part of a line end. -/
  gaps : ∀ before c after, markup.toList = before ++ c :: after →
    (∀ one ∈ placed, ¬(one.span.start ≤ byteSize before ∧ byteSize before < one.span.stop)) →
      c = ' ' ∨ c = '\t' ∨ c = '\r' ∨ c = '\n'
  /-- Each lexeme is the longest of its place. -/
  longest : ∀ one ∈ placed, ∃ before text after, markup.toList = before ++ (text ++ after) ∧
    one.span = ⟨byteSize before, byteSize before + byteSize text⟩ ∧
      Longest (text ++ after) text (some one.lexeme)
  /-- Each lexeme is the only lexeme of its slice, and takes up all of it. -/
  alone : ∀ one ∈ placed, lex (Text.slice markup one.span) =
    .ok [⟨one.lexeme, 0, one.span.stop - one.span.start⟩]

/-- **A markup that is refused** at a span. -/
structure RefusedAt (markup : String) (span : Span) : Prop where
  /-- What stands in front of the span consists of lexemes. -/
  before : ∃ placed, lex (Text.slice markup ⟨0, span.start⟩) = .ok placed
  /-- The span covers some characters, none of the valid lexemes is the longest where it starts, and
  there is a reason for that. -/
  blocked : ∃ front part rest, markup.toList = front ++ (part ++ rest) ∧ part ≠ [] ∧
    span = ⟨byteSize front, byteSize front + byteSize part⟩ ∧
    (∀ text lexeme, ¬Longest (part ++ rest) text (some lexeme)) ∧ Blocked (part ++ rest) part

/-- **The lexemes of a markup are those that tile it.** -/
theorem lex_eq_ok_iff {markup : String} {placed : List Placed} :
    lex markup = .ok placed ↔ Tiles [] 0 markup.toList placed := by
  refine ⟨fun lexed => ?_, Tiles.lexed⟩
  have outcome := outcome_lexFrom 0 markup.toList
  rw [← lex, lexed] at outcome
  generalize markup.toList = cs at outcome ⊢
  cases outcome with
  | ok tiles => exact tiles

/-- A part of a text is the slice at its place. -/
theorem slice_part {markup : String} {before text after : List Char} {span : Span}
    (whole : markup.toList = before ++ (text ++ after)) (starts : span.start = byteSize before)
    (stops : span.stop = byteSize before + byteSize text) :
    (Text.slice markup span).toList = text := by
  have covers : span.CoversFrom 0 markup.toList text :=
    ⟨before, after, whole, by rw [starts, Nat.zero_add], by rw [stops, Nat.zero_add]⟩
  rw [covers.covers.slice, String.toList_ofList]

theorem Tiles.tiledBy {markup : String} {placed : List Placed} (h : Tiles [] 0 markup.toList placed) :
    TiledBy markup placed where
  nonempty one mem := by
    obtain ⟨before, text, after, -, starts, stops, longest⟩ := h.covers one mem
    obtain ⟨c, rest, rfl, -⟩ := longest.spelled.exists_form
    have positive := Char.utf8Size_pos c
    rw [Text.byteSize_cons] at stops
    omega
  ordered := h.ordered
  gaps before c after whole outside :=
    isGap_iff.1 (h.gaps whole (by simpa only [Nat.zero_add] using outside))
  longest one mem := by
    obtain ⟨before, text, after, whole, starts, stops, longest⟩ := h.covers one mem
    rw [Nat.zero_add] at starts stops
    exact ⟨before, text, after, whole, by rw [← stops, ← starts], longest⟩
  alone one mem := by
    obtain ⟨before, text, after, whole, starts, stops, longest⟩ := h.covers one mem
    rw [Nat.zero_add] at starts stops
    have single : Longest (text ++ ([] ++ [])) text (some one.lexeme) := longest.shorten []
    have tiles : Tiles [] 0 (text ++ []) [⟨one.lexeme, 0, 0 + byteSize text⟩] := .lexeme single .nil
    rw [List.append_nil, Nat.zero_add] at tiles
    rw [lex_eq_ok_iff, slice_part whole starts stops, stops, starts, Nat.add_sub_cancel_left]
    exact tiles

theorem refusedAt_of_tiles {markup : String} {front part rest : List Char} {placed : List Placed}
    (whole : markup.toList = front ++ (part ++ rest)) (tiles : Tiles (part ++ rest) 0 front placed)
    (blocked : Blocked (part ++ rest) part) :
    RefusedAt markup ⟨byteSize front, byteSize front + byteSize part⟩ where
  before := by
    have behind : markup.toList = [] ++ (front ++ (part ++ rest)) := whole
    refine ⟨placed, lex_eq_ok_iff.2 ?_⟩
    rw [slice_part behind rfl (Nat.zero_add _).symm]
    exact tiles.shorten
  blocked := ⟨front, part, rest, whole, blocked.ne_nil, rfl,
    fun _ lexeme => blocked.not_longest lexeme, blocked⟩

/-- **Lexing covers the markup by longest lexemes,** or refuses the first span where none can be
taken. -/
theorem lex_tiles (markup : String) :
    match lex markup with
    | .ok placed => TiledBy markup placed
    | .error span => RefusedAt markup span := by
  have outcome := outcome_lexFrom 0 markup.toList
  rw [← lex] at outcome
  generalize chars : markup.toList = cs at outcome
  generalize lex markup = found at outcome ⊢
  cases outcome with
  | ok tiles => exact Tiles.tiledBy (by rwa [chars])
  | error tiles blocked =>
    rw [Nat.zero_add]
    exact refusedAt_of_tiles chars tiles blocked

example : lex "a-1?<=.5" = .ok [⟨.name "a-1?", 0, 4⟩, ⟨.le, 4, 6⟩, ⟨.dot, 6, 7⟩, ⟨.int 5, 7, 8⟩] := by rfl

example : lex "x <= 'é" = .error ⟨5, 8⟩ := by rfl

end Markup
end MailMerge
