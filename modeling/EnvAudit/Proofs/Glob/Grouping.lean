import EnvAudit.Proofs.Glob.Expansion
import EnvAudit.Proofs.Glob.Matching
import EnvAudit.Proofs.Glob.Pruning
import EnvAudit.Proofs.Text.Searching

/-! What an exclusion with brace groups covers. Its alternatives are globs that begin at the root, also those that are
bare names, and what is trimmed is the whole exclusion and no alternative. So a group excludes what its alternatives
exclude one by one, except below the root where a bare name stands alone. -/
namespace EnvAudit.Glob

section Framing
variable {lead trail : List Char}

theorem firstGroup?_append_right (noCloser : '\x7d' ∉ trail) (text : List Char) :
    firstGroup? (text ++ trail) = (firstGroup? text).map fun (head, body, tail) => (head, body, tail ++ trail) := by
  induction text with
  | nil =>
    rw [List.nil_append, firstGroup?_of_not_mem noCloser]
    rfl
  | cons c rest ih =>
    by_cases closes : c = '\x7b' ∧ ∃ tail, rest.dropWhile (!isBrace ·) = '\x7d' :: tail
    · obtain ⟨rfl, tail, closes⟩ := closes
      have plain : ∀ c ∈ rest.takeWhile (!isBrace ·), isBrace c = false := by
        intro c member
        simpa using List.mem_takeWhile_imp member
      have split : rest = rest.takeWhile (!isBrace ·) ++ '\x7d' :: tail := by
        rw [← closes, List.takeWhile_append_dropWhile]
      rw [split, firstGroup?_group plain, List.cons_append, List.append_assoc, List.cons_append,
        firstGroup?_group plain]
      rfl
    · -- What follows cannot close a brace that is still open here, as it holds no closing one.
      have other (same : c = '\x7b') (tail : List Char) : rest.dropWhile (!isBrace ·) ≠ '\x7d' :: tail :=
        fun dropped => closes ⟨same, tail, dropped⟩
      have longer (same : c = '\x7b') (tail : List Char) : (rest ++ trail).dropWhile (!isBrace ·) ≠ '\x7d' :: tail := by
        intro dropped
        rw [List.dropWhile_append] at dropped
        cases left : rest.dropWhile (!isBrace ·) with
        | nil =>
          rw [left] at dropped
          exact noCloser ((List.dropWhile_sublist _).subset (dropped ▸ List.mem_cons_self))
        | cons d more =>
          rw [left] at dropped
          cases dropped
          exact other same more left
      rw [List.cons_append, firstGroup?_cons longer, firstGroup?_cons other, ih, Option.map_map, Option.map_map]
      rfl

theorem firstGroup?_between (noOpener : '\x7b' ∉ lead) (noCloser : '\x7d' ∉ trail) (text : List Char) :
    firstGroup? (lead ++ text ++ trail) =
      (firstGroup? text).map fun (head, body, tail) => (lead ++ head, body, tail ++ trail) := by
  rw [List.append_assoc, firstGroup?_closed noOpener, firstGroup?_append_right noCloser, Option.map_map]
  rfl

theorem expansion_between (noOpener : '\x7b' ∉ lead) (noCloser : '\x7d' ∉ trail) (text : List Char) :
    expansion (lead ++ text ++ trail) = (expansion text).map (lead ++ · ++ trail) := by
  induction text using replacing_induction with
  | none text found =>
    rw [expansion_of_none found, expansion_of_none (by rw [firstGroup?_between noOpener noCloser, found]; rfl)]
    rfl
  | some text head body tail found ih =>
    have whole : firstGroup? (lead ++ text ++ trail) = some (lead ++ head, body, tail ++ trail) := by
      rw [firstGroup?_between noOpener noCloser, found]
      rfl
    rw [expansion_of_some whole, expansion_of_some found, List.map_flatMap]
    refine List.flatMap_congr fun option listed => ?_
    rw [← ih option listed]
    simp

end Framing

section Stripping
variable {text : List Char}

theorem expansion_eq_map (setting : List Char) : ∃ wrap : List Char → List Char,
    expansion setting = (expansion (stripped setting)).map wrap ∧
      ∀ glob, stripped glob = glob → stripped (wrap glob) = glob := by
  obtain ⟨lead, trail, split, noOpener, noCloser, clean⟩ := stripped_parts setting
  have framed := expansion_between noOpener noCloser (stripped setting)
  rw [← split] at framed
  exact ⟨(lead ++ · ++ trail), framed, clean⟩

theorem expansion_stripped (ungrouped : firstGroup? text = none) : expansion (stripped text) = [stripped text] := by
  obtain ⟨lead, trail, split, noOpener, noCloser, _⟩ := stripped_parts text
  have inner := firstGroup?_between noOpener noCloser (stripped text)
  rw [← split, ungrouped] at inner
  exact expansion_of_none (Option.map_eq_none_iff.mp inner.symm)

end Stripping

section Naming
variable {name setting path : List Char}

theorem covers_plain (noStar : '*' ∉ name) (noMark : '?' ∉ name) : covers name path = true ↔ path = name := by
  induction name generalizing path with
  | nil => rw [covers, pieces, fits, List.isEmpty_iff]
  | cons c rest ih =>
    obtain ⟨star, noStar⟩ := List.ne_and_not_mem_of_not_mem_cons noStar
    obtain ⟨mark, noMark⟩ := List.ne_and_not_mem_of_not_mem_cons noMark
    have later (text : List Char) : fits (pieces rest) text = true ↔ text = rest := ih noStar noMark
    rw [covers, pieces_char star.symm mark.symm, fits, fits_char_iff]
    simp only [later, exists_eq_right]

theorem reaches_bareName_iff (bare : isBareName name = true) :
    reaches name path = true ↔ (Text.pieces '/' path).head? = some name := by
  obtain ⟨noSlash, noStar, noMark, _⟩ := isBareName_iff.mp bare
  have kept : Text.dropEndWhile (· == '/') name = name := by
    refine List.rdropWhile_eq_self_iff.mpr fun filled => ?_
    simp only [beq_iff_eq]
    exact fun same => noSlash (same ▸ List.getLast_mem filled)
  rw [reaches, kept, Bool.or_eq_true, List.any_eq_true]
  simp only [covers_plain noStar noMark, exists_eq_right, mem_ancestors]
  constructor
  · rintro (rfl | ⟨rest, rfl⟩)
    · rw [Text.pieces_of_not_mem noSlash, List.head?_cons]
    · rw [Text.pieces_append, Text.pieces_of_not_mem noSlash]
      rfl
  · intro head
    obtain ⟨others, split⟩ := List.head?_eq_some_iff.mp head
    have whole := Text.join_pieces '/' path
    rw [split] at whole
    cases others with
    | nil => exact .inl whole.symm
    | cons second others =>
      refine .inr ⟨Text.join ['/'] (second :: others), ?_⟩
      rw [← whole, Text.join, List.append_assoc]
      rfl

end Naming

section Excluding
variable {setting path : List Char}

theorem excludes_singleton (few : groups setting < expansionLimit) :
    excludes [setting] path = .ok (bans setting path) := by
  rw [excludes_of_few (by simpa using few), List.any_cons, List.any_nil, Bool.or_false]

theorem bans_of_wild (wild : isBareName setting = false) :
    bans setting path = true ↔ ∃ glob ∈ expansion (stripped setting), reaches glob path = true := by
  rw [bans, wild, if_neg Bool.false_ne_true, List.any_eq_true]

theorem bans_of_bare (bare : isBareName setting = true) :
    bans setting path = true ↔ setting ∈ Text.pieces '/' path := by
  rw [bans, if_pos bare, List.contains_iff_mem]

theorem bans_ungrouped (ungrouped : firstGroup? setting = none) : bans setting path = true ↔
    (isBareName setting = true ∧ setting ∈ Text.pieces '/' path) ∨
      (isBareName setting = false ∧ reaches (stripped setting) path = true) := by
  cases kind : isBareName setting with
  | true => simp [bans_of_bare kind]
  | false => simp [bans_of_wild kind, expansion_stripped ungrouped]

theorem expansion_of_bare (bare : isBareName setting = true) : expansion setting = [setting] :=
  expansion_of_none (firstGroup?_of_count (List.count_eq_zero.mpr (isBareName_iff.mp bare).2.2.2))

theorem excludes_expansion :
    excludes (expansion setting) path = .ok ((expansion setting).any (bans · path)) := by
  refine excludes_of_few (fun one member => ?_) path
  rw [groups_of_none (firstGroup?_of_mem_expansion member)]
  decide

theorem any_bans_iff : (expansion setting).any (bans · path) = true ↔ ∃ one ∈ expansion setting,
    (isBareName one = true ∧ one ∈ Text.pieces '/' path) ∨
      (isBareName one = false ∧ reaches (stripped one) path = true) := by
  rw [List.any_eq_true]
  exact exists_congr fun one => and_congr_right fun member => bans_ungrouped (firstGroup?_of_mem_expansion member)

theorem bans_eq_any_of_wild (wild : ∀ one ∈ expansion setting, isBareName one = false)
    (clean : ∀ glob ∈ expansion (stripped setting), stripped glob = glob) :
    bans setting path = (expansion setting).any (bans · path) := by
  have own : isBareName setting = false := by
    by_contra bare
    rw [Bool.not_eq_false] at bare
    have alone := wild setting (by rw [expansion_of_bare bare, List.mem_singleton])
    rw [bare] at alone
    cases alone
  -- Each alternative of the setting is one of the stripped setting with what was stripped off around it.
  obtain ⟨wrap, parts, unwrap⟩ := expansion_eq_map setting
  rw [Bool.eq_iff_iff, bans_of_wild own, any_bans_iff]
  constructor
  · rintro ⟨glob, member, reached⟩
    have wrapped : wrap glob ∈ expansion setting := parts ▸ List.mem_map_of_mem member
    exact ⟨wrap glob, wrapped, .inr ⟨wild _ wrapped, (unwrap glob (clean glob member)).symm ▸ reached⟩⟩
  · rintro ⟨one, member, ⟨bare, _⟩ | ⟨_, reached⟩⟩
    · exact absurd (bare.symm.trans (wild one member)) (by decide)
    · rw [parts] at member
      obtain ⟨glob, inner, rfl⟩ := List.mem_map.mp member
      exact ⟨glob, inner, unwrap glob (clean glob inner) ▸ reached⟩

theorem any_bans_of_clean (outer : stripped setting = setting)
    (clean : ∀ one ∈ expansion setting, stripped one = one) : (expansion setting).any (bans · path) = true ↔
      bans setting path = true ∨ ∃ one ∈ expansion setting, isBareName one = true ∧ one ∈ Text.pieces '/' path := by
  cases kind : isBareName setting with
  | true =>
    rw [expansion_of_bare kind, List.any_cons, List.any_nil, Bool.or_false, bans_of_bare kind]
    simp [kind]
  | false =>
    rw [any_bans_iff, bans_of_wild kind, outer]
    constructor
    · rintro ⟨one, member, ⟨bare, inside⟩ | ⟨_, reached⟩⟩
      · exact .inr ⟨one, member, bare, inside⟩
      · exact .inl ⟨one, member, clean one member ▸ reached⟩
    · rintro (⟨one, member, reached⟩ | ⟨one, member, bare, inside⟩)
      · cases form : isBareName one with
        | true => exact ⟨one, member, .inl ⟨form, List.mem_of_mem_head? ((reaches_bareName_iff form).mp reached)⟩⟩
        | false => exact ⟨one, member, .inr ⟨form, (clean one member).symm ▸ reached⟩⟩
      · exact ⟨one, member, .inl ⟨bare, inside⟩⟩

/-- How a setting excludes a path and how the results of its expansion do one by one, where the globs are what it
expands to once it is stripped. -/
structure GroupExcludes (setting path : List Char) (results globs : List (List Char)) : Prop where
  tells : Returns (excludes [setting] path) ∧ Returns (excludes results path)
  group : isBareName setting = false →
    (excludes [setting] path = .ok true ↔ ∃ glob ∈ globs, reaches glob path = true)
  listed : excludes results path = .ok true ↔ ∃ one ∈ results, (isBareName one = true ∧ one ∈ Text.pieces '/' path) ∨
    (isBareName one = false ∧ reaches (stripped one) path = true)
  alike : firstGroup? setting = none ∨
      ((∀ one ∈ results, isBareName one = false) ∧ ∀ glob ∈ globs, stripped glob = glob) →
    excludes [setting] path = excludes results path
  further : stripped setting = setting → (∀ one ∈ results, stripped one = one) →
    (excludes results path = .ok true ↔ excludes [setting] path = .ok true ∨
      ∃ one ∈ results, isBareName one = true ∧ one ∈ Text.pieces '/' path)

theorem groupExcludes (few : groups setting < expansionLimit) :
    GroupExcludes setting path (expansion setting) (expansion (stripped setting)) where
  tells := ⟨⟨_, excludes_singleton few⟩, ⟨_, excludes_expansion⟩⟩
  group := by
    intro wild
    rw [excludes_singleton few, Except.ok.injEq, bans_of_wild wild]
  listed := by rw [excludes_expansion, Except.ok.injEq, any_bans_iff]
  alike := by
    rw [excludes_singleton few, excludes_expansion]
    rintro (ungrouped | ⟨wild, clean⟩)
    · rw [expansion_of_none ungrouped, List.any_cons, List.any_nil, Bool.or_false]
    · rw [bans_eq_any_of_wild wild clean]
  further := by
    intro outer clean
    rw [excludes_singleton few, excludes_expansion, Except.ok.injEq, Except.ok.injEq, any_bans_of_clean outer clean]

/-- A group excludes, at the root and below the directories there, what its alternatives as globs cover; a bare name
among them covers the paths that begin with it. Taken one by one, the alternatives exclude as settings of their own. So
both exclude the same where no alternative is a bare name or has something to strip, and else, as far as nothing is to
be stripped, the paths in which some bare alternative is a component come in addition. With too many groups neither has
a value. -/
theorem group_excludes_iff (setting path : List Char) :
    (∀ name, isBareName name = true →
      (reaches name path = true ↔ (Text.pieces '/' path).head? = some name)) ∧
    (groups setting < expansionLimit → ∃ results globs, expand setting = .ok results ∧
      expand (stripped setting) = .ok globs ∧ GroupExcludes setting path results globs) ∧
    (expansionLimit ≤ groups setting →
      expand setting = .error .nestingTooDeep ∧ excludes [setting] path = .error .nestingTooDeep) := by
  refine ⟨fun name => reaches_bareName_iff, fun few => ?_, fun many => ⟨expand_of_many many, ?_⟩⟩
  · refine ⟨expansion setting, expansion (stripped setting), expand_of_few few, expand_of_few ?_, groupExcludes few⟩
    rwa [groups_stripped]
  · rw [excludes_cons, if_neg (Nat.not_lt.mpr many)]

theorem group_excludes_iff_names :
    excludes ["src/\x7ba,b\x7d.ts".toList] "src/b.ts".toList = .ok true ∧
    ∃ names, expand "\x7bnode_modules,dist\x7d".toList = .ok names ∧
      excludes names "src/dist/x.js".toList = .ok true := by
  obtain ⟨_, kinds, _⟩ := group_excludes_iff "src/\x7ba,b\x7d.ts".toList "src/b.ts".toList
  obtain ⟨_, directories, _⟩ := group_excludes_iff "\x7bnode_modules,dist\x7d".toList "src/dist/x.js".toList
  obtain ⟨results, globs, _, stripped, kinds⟩ := kinds (by decide)
  obtain ⟨names, _, given, _, directories⟩ := directories (by decide)
  constructor
  · rw [expand_of_few (by decide)] at stripped
    cases stripped
    exact (kinds.group (by decide)).mpr ⟨"src/b.ts".toList, by decide, by decide⟩
  · refine ⟨names, given, directories.listed.mpr ⟨"dist".toList, ?_, .inl (by decide)⟩⟩
    rw [expand_of_few (by decide)] at given
    cases given
    decide

theorem not_alike (few : groups setting < expansionLimit)
    (apart : bans setting path ≠ (expansion setting).any (bans · path)) :
    ∃ results, expand setting = .ok results ∧
      ¬ (excludes [setting] path = .ok true ↔ excludes results path = .ok true) := by
  refine ⟨expansion setting, expand_of_few few, fun alike => apart ?_⟩
  rwa [excludes_singleton few, excludes_expansion, Except.ok.injEq, Except.ok.injEq, ← Bool.eq_iff_iff] at alike

/-- A bare name in a group stands for no component below the root, and an alternative keeps the blank or the `./` that
it would lose as a setting of its own. -/
theorem not_group_excludes_iff :
    (∃ results, expand "\x7bnode_modules,dist\x7d".toList = .ok results ∧
      ¬ (excludes ["\x7bnode_modules,dist\x7d".toList] "src/node_modules/x.js".toList = .ok true ↔
        excludes results "src/node_modules/x.js".toList = .ok true)) ∧
    (∃ results, expand "\x7bsrc/a, src/b\x7d".toList = .ok results ∧
      ¬ (excludes ["\x7bsrc/a, src/b\x7d".toList] "src/b/x.js".toList = .ok true ↔
        excludes results "src/b/x.js".toList = .ok true)) ∧
    ∃ results, expand "\x7b./src/a,src/b\x7d".toList = .ok results ∧
      ¬ (excludes ["\x7b./src/a,src/b\x7d".toList] "src/a/x.js".toList = .ok true ↔
        excludes results "src/a/x.js".toList = .ok true) :=
  ⟨not_alike (by decide) (by decide), not_alike (by decide) (by decide), not_alike (by decide) (by decide)⟩

end Excluding
end EnvAudit.Glob
