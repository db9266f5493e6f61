import EnvAudit.Proofs.Script.Laying

/-! Tokens cover their own characters, and so do comments. This is where the places of nodes come from: whatever takes
characters counts them on, and all other parsers are put together from those that do. -/
namespace EnvAudit.Script
open EnvAudit.Script.Parser

variable {source : List Char}

theorem advance_at (source : List Char) (length k : Nat) :
    ∃ m, k ≤ m ∧ advance length (source.drop k) (placeAt source k) = (source.drop m, placeAt source m) ∧
      (source.drop k).take length = slice source k m := by
  induction length generalizing k with
  | zero => exact ⟨k, Nat.le_refl k, by simp [advance], by simp [slice]⟩
  | succ length ih =>
    cases left : source.drop k with
    | nil => exact ⟨k, Nat.le_refl k, by simp [advance, left], by simp [slice]⟩
    | cons c rest =>
      have next := drop_succ left
      obtain ⟨m, le, moved, taken⟩ := ih (k + 1)
      rw [next] at moved taken
      refine ⟨m, Nat.le_of_succ_le le, ?_, ?_⟩
      · rw [advance, ← placeAt_succ left, moved]
      · have one : slice source k (k + 1) = [c] := by rw [slice_succ (Nat.le_refl k) left, slice_self, List.nil_append]
        rw [List.take_succ_cons, taken, ← slice_append source (Nat.le_succ k) le, one, List.singleton_append]

theorem after_eq {k : Nat} {c : Char} {rest : List Char} {place : Place} (here : place = placeAt source k)
    (left : source.drop k = c :: rest) : place.after c = placeAt source (k + 1) := by rw [here, placeAt_succ left]

/-- What the reader of blanks and comments has taken up to a point of a source. -/
def Trivia.Covers (source : List Char) (i k : Nat) (comments : List Node) : Trivia → Prop
  | .blank => Laid source i comments.reverse k
  | .line start read | .block start read =>
    ∃ a, a ≤ k ∧ Laid source i comments.reverse a ∧ start = placeAt source a ∧ read.reverse = slice source a k

namespace Trivia
variable {i k : Nat} {c : Char} {rest read : List Char} {comments : List Node} {place start : Place}

theorem Covers.slash (covers : blank.Covers source i k comments) (here : place = placeAt source k)
    (left : source.drop k = c :: rest) : (line place [c]).Covers source i (k + 1) comments :=
  ⟨k, Nat.le_succ k, covers, here, by rw [slice_succ (Nat.le_refl k) left, slice_self]; rfl⟩

theorem Covers.comment (covers : (line start read).Covers source i k comments) (here : place = placeAt source k) :
    blank.Covers source i k (commentNode start place read :: comments) := by
  obtain ⟨a, le, laid, rfl, text⟩ := covers
  rw [Covers, List.reverse_cons, commentNode, here, text]
  exact laid.append (.token (Nat.le_refl a) le (.nil (Nat.le_refl k)))

theorem Covers.succ (covers : (line start read).Covers source i k comments) (left : source.drop k = c :: rest) :
    (line start (c :: read)).Covers source i (k + 1) comments := by
  obtain ⟨a, le, laid, begins, text⟩ := covers
  exact ⟨a, Nat.le_succ_of_le le, laid, begins, by rw [List.reverse_cons, text, slice_succ le left]⟩

end Trivia

theorem skip_stands {i k : Nat} {margin : Margin} {trivia : Trivia} {text : List Char} {r : Reading}
    (left : source.drop k = text) (here : margin.place = placeAt source k)
    (covers : trivia.Covers source i k margin.comments) (given : skip margin trivia text = some r) :
    Stands source i r := by
  -- Each step takes one character: a blank, the slash that begins a comment, or a character within one or at its end.
  -- `Covers` says what has been taken, so every case is one of its lemmas.
  fun_induction skip margin trivia text generalizing k with
  | case1 margin =>
    cases given
    exact ⟨k, left.symm, here, covers⟩
  | case2 margin start read =>
    cases given
    exact ⟨k, left.symm, here, covers.comment here⟩
  | case3 => cases given
  | case4 margin c rest next space =>
    rename_i ih
    exact ih (drop_succ left) (after_eq here left) (covers.longer (Nat.le_succ k)) given
  | case5 margin next rest =>
    rename_i ih
    exact ih (drop_succ left) (after_eq here left) (covers.slash here left) given
  | case6 margin next rest =>
    rename_i ih
    exact ih (drop_succ left) (after_eq here left) (covers.slash here left) given
  | case7 =>
    cases given
    exact ⟨k, left.symm, here, covers⟩
  | case8 margin start read c rest next ends =>
    rename_i ih
    exact ih (drop_succ left) (after_eq here left) ((covers.comment here).longer (Nat.le_succ k)) given
  | case9 margin start read c rest next goes =>
    rename_i ih
    exact ih (drop_succ left) (after_eq here left) (covers.succ left) given
  | case10 margin start read c rest next ends =>
    rename_i ih
    exact ih (drop_succ left) (after_eq here left) ((covers.succ left).comment (after_eq here left)) given
  | case11 margin start read c rest next goes =>
    rename_i ih
    exact ih (drop_succ left) (after_eq here left) (covers.succ left) given

theorem ofSource_stands {r : Reading} (given : Reading.ofSource source = some r) : Stands source 0 r := by
  unfold Reading.ofSource at given
  split at given
  · cases given
  · have nothing : Trivia.blank.Covers source 0 0 [] := Laid.nil (Nat.le_refl 0)
    exact skip_stands List.drop_zero rfl nothing given

instance peeks_settle : Peeks source settle where
  stands stands given := by
    obtain ⟨k, left, place, comments⟩ := stands
    obtain ⟨next, skipped, same⟩ := Option.map_eq_some_iff.mp given
    cases same
    refine skip_stands left.symm place ?_ skipped
    rw [Trivia.Covers, List.reverse_reverse]
    exact comments

instance lays_takeRaw {kind : Kind} {length : Nat} : Lays source (takeRaw kind length) where
  laid laid stands given shown := by
    obtain ⟨k, left, place, comments⟩ := stands
    obtain ⟨m, le, moved, taken⟩ := advance_at source length k
    unfold takeRaw at given
    rw [left, place, moved, taken] at given
    cases given
    cases shown
    refine ⟨m, Nat.le_trans comments.le le, ?_, m, rfl, rfl, .nil (Nat.le_refl m)⟩
    exact (comments.append (.token (Nat.le_refl k) le (.nil (Nat.le_refl m)))).earlier laid.le

instance lays_take {kind : Kind} {length : Nat} : Lays source (take kind length) := by
  unfold take
  infer_instance

section Looking

instance peeks_word : Peeks source word := by
  unfold word
  infer_instance

instance peeks_atWord {expected : String} : Peeks source (atWord expected) := by
  unfold atWord
  infer_instance

instance peeks_atWords {expected : List String} : Peeks source (atWords expected) := by
  unfold atWords
  infer_instance

instance peeks_atName : Peeks source atName := by
  unfold atName
  infer_instance

instance peeks_mark : Peeks source mark := by
  unfold mark
  infer_instance

instance peeks_atMark {expected : String} : Peeks source (atMark expected) := by
  unfold atMark
  infer_instance

instance peeks_atChar {c : Char} : Peeks source (atChar c) := by
  unfold atChar
  infer_instance

instance peeks_atEnd : Peeks source atEnd := by
  unfold atEnd
  infer_instance

instance peeks_onFreshLine : Peeks source onFreshLine := by
  unfold onFreshLine
  infer_instance

instance peeks_atPropertyName : Peeks source atPropertyName := by
  unfold atPropertyName
  refine .look fun _ => ?_
  split <;> infer_instance

end Looking

section Taking
variable {kind : Kind} {expected : String} {opening closing : Char} {content : Grammar}

instance lays_takeName : Lays source (takeName kind) := by
  unfold takeName
  dsimp only
  infer_instance

instance lays_keyword : Lays source (keyword expected) := by
  unfold keyword
  infer_instance

instance lays_sign : Lays source (sign expected) := by
  unfold sign
  infer_instance

instance lays_character : Lays source (character opening) := by
  unfold character
  infer_instance

instance lays_signIf : Lays source (signIf expected) := by
  unfold signIf
  infer_instance

instance lays_keywordIf : Lays source (keywordIf expected) := by
  unfold keywordIf
  infer_instance

instance lays_enclosed [Lays source content] : Lays source (enclosed opening closing content) := by
  unfold enclosed
  infer_instance

instance lays_commaList [Lays source content] : Lays source (commaList closing content) := by
  unfold commaList
  infer_instance

instance lays_bracketed [Lays source content] : Lays source (bracketed opening closing content) := by
  unfold bracketed
  infer_instance

instance lays_bracketedSome [Lays source content] : Lays source (bracketedSome opening closing content) := by
  unfold bracketedSome
  infer_instance

instance lays_bracketedLoosely [Lays source content] : Lays source (bracketedLoosely opening closing content) := by
  unfold bracketedLoosely
  infer_instance

instance lays_number : Lays source number := by
  unfold number
  dsimp only
  infer_instance

instance lays_regex : Lays source regex := by
  unfold regex
  dsimp only
  infer_instance

instance lays_stringParts {quote : Char} : Lays source (stringParts quote) := by
  unfold stringParts
  dsimp only
  infer_instance

instance lays_string : Lays source string := by
  unfold string
  dsimp only
  infer_instance

instance lays_semicolonAfter {inType : Bool} : Lays source (semicolonAfter inType) := by
  unfold semicolonAfter
  refine .look fun _ => ?_
  split <;> infer_instance

instance lays_semicolon : Lays source semicolon := by
  unfold semicolon
  infer_instance

end Taking

section Names

instance lays_privateName : Lays source privateName := by
  unfold privateName
  refine .look fun _ => ?_
  split <;> infer_instance

instance offers_modifier {words : List String} {follows : Parser Bool} [Peeks source follows] :
    Offers source [] (modifier words follows) := by
  unfold modifier
  infer_instance

instance lays_modifiers {words : List String} {follows : Parser Bool} [Peeks source follows] :
    Lays source (modifiers words follows) := by
  have steps (done : List Node) :
      Offers source done (do return (← modifier words follows).map (done ++ ·)) := by
    refine ⟨fun laid stands given shown => ?_⟩
    obtain ⟨found, mid, read, same⟩ := bind_eq_some given
    cases same
    obtain ⟨nodes, rfl, same⟩ := Option.map_eq_some_iff.mp shown
    cases same
    obtain ⟨k, le, new, stands⟩ := offers_modifier.laid (.nil (Nat.le_refl _)) stands read rfl
    exact ⟨k, le, laid.append new, stands⟩
  unfold modifiers
  infer_instance

end Names

end EnvAudit.Script
