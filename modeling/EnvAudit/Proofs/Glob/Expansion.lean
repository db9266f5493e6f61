import EnvAudit.Glob.Selection
import EnvAudit.Proofs.Outcome
import EnvAudit.Proofs.Text.Cutting

/-! What a pattern with brace groups stands for. Every text is a pattern: its groups are found by matching braces, and
braces without a partner stand for themselves. Replacing the groups gives the texts that it denotes, for each replacement
of the first group that holds no other one keeps them, and gives them in order where no group holds another one. A pattern
with more groups than calls can be open is given up instead. -/
namespace EnvAudit.Glob

/-- The regions of a pattern: what comes before the last closing brace that belongs to no group, what comes after it, a
pattern all of whose braces belong to groups, and the inside of a group. -/
inductive Region
  | front
  | back
  | whole
  | inside

def Region.admits : Region → Char → Bool
  | .inside, c => !isBrace c && c != ','
  | _, c => !isBrace c

mutual

inductive Braced : Region → Type
  | nil {region : Region} : Braced region
  | char {region : Region} (c : Char) (plain : region.admits c = true) (rest : Braced region) : Braced region
  | group {region : Region} (content : Alternatives) (rest : Braced region) : Braced region
  | opener (rest : Braced .back) : Braced .back
  | closer (rest : Braced .front) : Braced .front
  | last (rest : Braced .back) : Braced .front

inductive Alternatives : Type
  | only (option : Braced .inside) : Alternatives
  | more (option : Braced .inside) (others : Alternatives) : Alternatives

end

mutual

def Braced.text {region : Region} : Braced region → List Char
  | .nil => []
  | .char c _ rest => c :: rest.text
  | .group content rest => '\x7b' :: (content.text ++ '\x7d' :: rest.text)
  | .opener rest => '\x7b' :: rest.text
  | .closer rest => '\x7d' :: rest.text
  | .last rest => rest.text

def Alternatives.text : Alternatives → List Char
  | .only option => option.text
  | .more option others => option.text ++ ',' :: others.text

end

mutual

/-- The texts that a pattern denotes: a group denotes what its alternatives denote, all else denotes itself, and what
follows is appended to each. -/
def Braced.meanings {region : Region} : Braced region → List (List Char)
  | .nil => [[]]
  | .char c _ rest => rest.meanings.map (c :: ·)
  | .group content rest => content.meanings.flatMap fun first => rest.meanings.map (first ++ ·)
  | .opener rest => rest.meanings.map ('\x7b' :: ·)
  | .closer rest => rest.meanings.map ('\x7d' :: ·)
  | .last rest => rest.meanings

def Alternatives.meanings : Alternatives → List (List Char)
  | .only option => option.meanings
  | .more option others => option.meanings ++ others.meanings

end

mutual

def Braced.depth {region : Region} : Braced region → Nat
  | .nil => 0
  | .char _ _ rest => rest.depth
  | .group content rest => max (content.depth + 1) rest.depth
  | .opener rest => rest.depth
  | .closer rest => rest.depth
  | .last rest => rest.depth

def Alternatives.depth : Alternatives → Nat
  | .only option => option.depth
  | .more option others => max option.depth others.depth

end

def Alternatives.options : Alternatives → List (Braced .inside)
  | .only option => [option]
  | .more option others => option :: others.options

theorem Region.isBrace_of_admits {region : Region} {c : Char} (plain : region.admits c = true) : isBrace c = false := by
  cases region <;> simp_all [Region.admits]

theorem Region.admits_of_inside {region : Region} {c : Char} (plain : Region.inside.admits c = true) :
    region.admits c = true := by
  have both : isBrace c = false ∧ c ≠ ',' := by simpa [Region.admits] using plain
  cases region <;> simp [Region.admits, both]

def Braced.append {region : Region} : Braced .inside → Braced region → Braced region
  | .nil, rest => rest
  | .char c plain more, rest => .char c (Region.admits_of_inside plain) (more.append rest)
  | .group content more, rest => .group content (more.append rest)

mutual

def Braced.resolve {region : Region} : Braced region → Option (List (Braced region))
  | .nil => none
  | .char c plain rest => rest.resolve.map (·.map (.char c plain))
  | .group content rest =>
    match content.resolve with
    | some contents => some (contents.map (.group · rest))
    | none => some (content.options.map (·.append rest))
  | .opener rest => rest.resolve.map (·.map .opener)
  | .closer rest => rest.resolve.map (·.map .closer)
  | .last rest => rest.resolve.map (·.map .last)

def Alternatives.resolve : Alternatives → Option (List Alternatives)
  | .only option => option.resolve.map (·.map .only)
  | .more option others =>
    match option.resolve with
    | some options => some (options.map (.more · others))
    | none => others.resolve.map (·.map (.more option))

end

mutual

theorem Braced.depth_of_resolve {region : Region} (tree : Braced region) (none : tree.resolve = none) :
    tree.depth = 0 := by
  match region, tree with
  | _, .nil => rfl
  | _, .char c plain rest => exact rest.depth_of_resolve (Option.map_eq_none_iff.mp none)
  | _, .group content rest =>
    rw [Braced.resolve] at none
    split at none <;> cases none
  | _, .opener rest => exact rest.depth_of_resolve (Option.map_eq_none_iff.mp none)
  | _, .closer rest => exact rest.depth_of_resolve (Option.map_eq_none_iff.mp none)
  | _, .last rest => exact rest.depth_of_resolve (Option.map_eq_none_iff.mp none)

theorem Alternatives.depth_of_resolve (content : Alternatives) (none : content.resolve = none) : content.depth = 0 := by
  match content with
  | .only option => exact option.depth_of_resolve (Option.map_eq_none_iff.mp none)
  | .more option others =>
    rw [Alternatives.resolve] at none
    split at none
    · cases none
    · next first =>
      rw [Alternatives.depth, option.depth_of_resolve first, others.depth_of_resolve (Option.map_eq_none_iff.mp none)]
      rfl

end

theorem Braced.resolve_of_depth {region : Region} (tree : Braced region) (flat : tree.depth = 0) :
    tree.resolve = none := by
  match region, tree with
  | _, .nil => rfl
  | _, .char c plain rest => exact Option.map_eq_none_iff.mpr (rest.resolve_of_depth flat)
  | _, .group content rest => 
    rw [Braced.depth] at flat
    omega
  | _, .opener rest => exact Option.map_eq_none_iff.mpr (rest.resolve_of_depth flat)
  | _, .closer rest => exact Option.map_eq_none_iff.mpr (rest.resolve_of_depth flat)
  | _, .last rest => exact Option.map_eq_none_iff.mpr (rest.resolve_of_depth flat)

theorem Alternatives.depth_of_mem {content : Alternatives} {option : Braced .inside}
    (member : option ∈ content.options) : option.depth ≤ content.depth := by
  match content with
  | .only first => rw [List.mem_singleton.mp member, Alternatives.depth]
  | .more first others =>
    rw [Alternatives.depth]
    rcases List.mem_cons.mp member with rfl | later
    · exact Nat.le_max_left _ _
    · exact (depth_of_mem later).trans (Nat.le_max_right _ _)

def Region.clear : Region → List Char → Prop
  | .front, text => ∃ closed opened, text = closed ++ opened ∧ '\x7b' ∉ closed ∧ '\x7d' ∉ opened
  | _, text => '\x7d' ∉ text

theorem Region.clear_cons {region : Region} {c : Char} {text : List Char} (plain : region.admits c = true)
    (clear : region.clear text) : region.clear (c :: text) := by
  have noBrace := isBrace_of_admits plain
  simp only [isBrace, Bool.or_eq_false_iff, beq_eq_false_iff_ne] at noBrace
  cases region with
  | front =>
    obtain ⟨closed, opened, rfl, noOpener, noCloser⟩ := clear
    exact ⟨c :: closed, opened, rfl, by simp [noBrace.1.symm, noOpener], noCloser⟩
  | back => exact List.not_mem_cons_of_ne_of_not_mem noBrace.2.symm clear
  | whole => exact List.not_mem_cons_of_ne_of_not_mem noBrace.2.symm clear
  | inside => exact List.not_mem_cons_of_ne_of_not_mem noBrace.2.symm clear

theorem Region.clear_of_not_mem (region : Region) {text : List Char} (absent : '\x7d' ∉ text) :
    region.clear text := by
  cases region with
  | front => exact ⟨[], text, rfl, List.not_mem_nil, absent⟩
  | _ => exact absent

theorem Region.clear_closer {text : List Char} (clear : Region.front.clear text) :
    Region.front.clear ('\x7d' :: text) := by
  obtain ⟨closed, opened, rfl, noOpener, noCloser⟩ := clear
  exact ⟨'\x7d' :: closed, opened, rfl, List.not_mem_cons_of_ne_of_not_mem (by decide) noOpener, noCloser⟩

theorem Braced.clear_of_depth {region : Region} (tree : Braced region) (flat : tree.depth = 0) :
    region.clear tree.text := by
  match region, tree with
  | region, .nil => exact region.clear_of_not_mem List.not_mem_nil
  | region, .char c plain rest => exact Region.clear_cons plain (rest.clear_of_depth flat)
  | region, .group content rest =>
    rw [Braced.depth] at flat
    omega
  | _, .opener rest =>
    exact List.not_mem_cons_of_ne_of_not_mem (by decide) (rest.clear_of_depth flat)
  | _, .closer rest => exact Region.clear_closer (rest.clear_of_depth flat)
  | _, .last rest => exact Region.clear_of_not_mem .front (rest.clear_of_depth flat)

theorem Braced.meanings_of_depth {region : Region} (tree : Braced region) (flat : tree.depth = 0) :
    tree.meanings = [tree.text] := by
  match region, tree with
  | region, .nil => rfl
  | region, .char c plain rest => exact congrArg (List.map (c :: ·)) (rest.meanings_of_depth flat)
  | region, .group content rest =>
    rw [Braced.depth] at flat
    omega
  | _, .opener rest => exact congrArg (List.map ('\x7b' :: ·)) (rest.meanings_of_depth flat)
  | _, .closer rest => exact congrArg (List.map ('\x7d' :: ·)) (rest.meanings_of_depth flat)
  | _, .last rest => exact rest.meanings_of_depth flat

theorem Braced.admits_of_depth {tree : Braced .inside} (flat : tree.depth = 0) :
    ∀ c ∈ tree.text, isBrace c = false ∧ c ≠ ',' := by
  match tree with
  | .nil => exact List.forall_mem_nil _
  | .char c plain rest =>
    have own : isBrace c = false ∧ c ≠ ',' := by simpa [Region.admits] using plain
    exact List.forall_mem_cons.mpr ⟨own, admits_of_depth flat⟩
  | .group content rest =>
    rw [Braced.depth] at flat
    omega

theorem Alternatives.meanings_eq (content : Alternatives) :
    content.meanings = content.options.flatMap (·.meanings) := by
  match content with
  | .only option => exact (List.flatMap_singleton _ _).symm
  | .more option others => rw [meanings, options, List.flatMap_cons, others.meanings_eq]

theorem Alternatives.isBrace_of_depth {content : Alternatives} (flat : content.depth = 0) :
    ∀ c ∈ content.text, isBrace c = false := by
  match content with
  | .only option => exact fun c member => (Braced.admits_of_depth flat c member).1
  | .more option others =>
    rw [Alternatives.depth, Nat.max_eq_zero_iff] at flat
    rw [Alternatives.text, List.forall_mem_append, List.forall_mem_cons]
    exact ⟨fun c member => (Braced.admits_of_depth flat.1 c member).1, by decide, isBrace_of_depth flat.2⟩

theorem Alternatives.pieces_text {content : Alternatives} (flat : content.depth = 0) :
    Text.pieces ',' content.text = content.options.map (·.text) := by
  match content with
  | .only option =>
    exact Text.pieces_of_not_mem fun member => (Braced.admits_of_depth flat _ member).2 rfl
  | .more option others =>
    rw [Alternatives.depth, Nat.max_eq_zero_iff] at flat
    rw [Alternatives.text, Text.pieces_append, pieces_text flat.2,
      Text.pieces_of_not_mem fun member => (Braced.admits_of_depth flat.1 _ member).2 rfl]
    rfl

theorem Braced.text_append {region : Region} (option : Braced .inside) (rest : Braced region) :
    (option.append rest).text = option.text ++ rest.text := by
  match option with
  | .nil => rw [append, text, List.nil_append]
  | .char c plain more => rw [append, text, text, more.text_append rest, List.cons_append]
  | .group content more =>
    rw [append, text, text, more.text_append rest, List.cons_append, List.append_assoc, List.cons_append]

theorem Braced.meanings_append {region : Region} (option : Braced .inside) (rest : Braced region) :
    (option.append rest).meanings = option.meanings.flatMap fun first => rest.meanings.map (first ++ ·) := by
  match option with
  | .nil => simp [append, meanings]
  | .char c plain more => 
    rw [append, meanings, meanings, more.meanings_append rest]
    simp [List.map_flatMap, List.flatMap_map, Function.comp_def]
  | .group content more => 
    rw [append, meanings, meanings, more.meanings_append rest]
    simp [List.map_flatMap, List.flatMap_map, List.flatMap_assoc, Function.comp_def]

theorem Braced.depth_append {region : Region} (option : Braced .inside) (rest : Braced region) :
    (option.append rest).depth = max option.depth rest.depth := by
  match option with
  | .nil => rw [append, depth, Nat.zero_max]
  | .char c plain more => rw [append, depth, depth, more.depth_append rest]
  | .group content more => rw [append, depth, depth, more.depth_append rest, Nat.max_assoc]

theorem drop_takeWhile (text : List Char) :
    text.drop (text.takeWhile (!isBrace ·)).length = text.dropWhile (!isBrace ·) :=
  calc text.drop (text.takeWhile (!isBrace ·)).length
    _ = (text.takeWhile (!isBrace ·) ++ text.dropWhile (!isBrace ·)).drop (text.takeWhile (!isBrace ·)).length := by
      rw [List.takeWhile_append_dropWhile]
    _ = text.dropWhile (!isBrace ·) := List.drop_left

theorem firstGroup?_cons {c : Char} {rest : List Char}
    (other : c = '\x7b' → ∀ tail, rest.dropWhile (!isBrace ·) ≠ '\x7d' :: tail) :
    firstGroup? (c :: rest) = (firstGroup? rest).map fun (head, body, tail) => (c :: head, body, tail) := by
  rw [firstGroup?]
  exact fun tail same closes => other same tail ((drop_takeWhile rest).symm.trans closes)

theorem firstGroup?_group {body : List Char} (plain : ∀ c ∈ body, isBrace c = false) (tail : List Char) :
    firstGroup? ('\x7b' :: (body ++ '\x7d' :: tail)) = some ([], body, tail) := by
  have taken : (body ++ '\x7d' :: tail).takeWhile (!isBrace ·) = body := by
    rw [List.takeWhile_append_of_pos (by simpa using plain), List.takeWhile_cons_of_neg (by decide), List.append_nil]
  unfold firstGroup?
  dsimp only
  rw [taken, List.drop_left]
  rfl

theorem dropWhile_ne {before rest tail : List Char} (noCloser : '\x7d' ∉ before) :
    (before ++ '\x7b' :: rest).dropWhile (!isBrace ·) ≠ '\x7d' :: tail := by
  induction before with
  | nil =>
    rw [List.nil_append, List.dropWhile_cons_of_neg (by decide)]
    exact fun same => absurd (List.cons.inj same).1 (by decide)
  | cons c before ih =>
    obtain ⟨other, noCloser⟩ := List.ne_and_not_mem_of_not_mem_cons noCloser
    rw [List.cons_append, List.dropWhile_cons]
    split
    · exact ih noCloser
    · exact fun same => other (List.cons.inj same).1.symm

theorem firstGroup?_of_not_mem {text : List Char} (noCloser : '\x7d' ∉ text) : firstGroup? text = none := by
  induction text with
  | nil => rfl
  | cons c text ih =>
    have noCloser := (List.ne_and_not_mem_of_not_mem_cons noCloser).2
    rw [firstGroup?_cons, ih noCloser]
    · rfl
    · intro _ tail same
      exact noCloser ((List.dropWhile_sublist _).subset (same ▸ List.mem_cons_self))

theorem firstGroup?_append {before body : List Char} (noCloser : '\x7d' ∉ before)
    (plain : ∀ c ∈ body, isBrace c = false) (tail : List Char) :
    firstGroup? (before ++ '\x7b' :: (body ++ '\x7d' :: tail)) = some (before, body, tail) := by
  induction before with
  | nil => exact firstGroup?_group plain tail
  | cons c before ih =>
    have noCloser := (List.ne_and_not_mem_of_not_mem_cons noCloser).2
    rw [List.cons_append, firstGroup?_cons fun _ _ => dropWhile_ne noCloser, ih noCloser]
    rfl

theorem firstGroup?_closed {closed : List Char} (noOpener : '\x7b' ∉ closed) (rest : List Char) :
    firstGroup? (closed ++ rest) =
      (firstGroup? rest).map fun (head, body, tail) => (closed ++ head, body, tail) := by
  induction closed with
  | nil => exact Option.map_id'.symm
  | cons c closed ih =>
    obtain ⟨other, noOpener⟩ := List.ne_and_not_mem_of_not_mem_cons noOpener
    rw [List.cons_append, firstGroup?_cons fun same => absurd same.symm other, ih noOpener, Option.map_map]
    rfl

theorem Region.firstGroup?_of_clear {region : Region} {text : List Char} (clear : region.clear text) :
    firstGroup? text = none := by
  cases region with
  | front =>
    obtain ⟨closed, opened, rfl, noOpener, noCloser⟩ := clear
    rw [firstGroup?_closed noOpener, firstGroup?_of_not_mem noCloser]
    rfl
  | _ => exact firstGroup?_of_not_mem clear

theorem Region.firstGroup?_append {region : Region} {head body : List Char} (clear : region.clear head)
    (plain : ∀ c ∈ body, isBrace c = false) (tail : List Char) :
    firstGroup? (head ++ '\x7b' :: (body ++ '\x7d' :: tail)) = some (head, body, tail) := by
  cases region with
  | front =>
    obtain ⟨closed, opened, rfl, noOpener, noCloser⟩ := clear
    rw [List.append_assoc, firstGroup?_closed noOpener, Glob.firstGroup?_append noCloser plain]
    rfl
  | _ => exact Glob.firstGroup?_append clear plain tail

theorem firstGroup?_isSome (head : List Char) {body : List Char} (plain : ∀ c ∈ body, isBrace c = false)
    (tail : List Char) : (firstGroup? (head ++ '\x7b' :: (body ++ '\x7d' :: tail))).isSome = true := by
  induction head with
  | nil => rw [List.nil_append, firstGroup?_group plain]; rfl
  | cons c head ih =>
    rw [List.cons_append]
    unfold firstGroup?
    dsimp only
    split
    · rfl
    · rw [Option.isSome_map]
      exact ih

/-- Whether some texts come from a text by putting each alternative of a group in the place of the group. Nothing before
the group shows one, and it holds no brace. -/
inductive Replaces (region : Region) : List Char → List (List Char) → Prop
  | intro {head body : List Char} (tail : List Char) (clear : region.clear head)
    (plain : ∀ c ∈ body, isBrace c = false) :
    Replaces region (head ++ '\x7b' :: (body ++ '\x7d' :: tail))
      ((Text.pieces ',' body).map fun option => head ++ option ++ tail)

section Replacing
variable {region : Region} {text : List Char} {results : List (List Char)}

theorem Replaces.ne_nil (replaces : Replaces region text results) : results ≠ [] := by
  obtain ⟨_, _, _⟩ := replaces
  rw [Ne, List.map_eq_nil_iff]
  exact Text.pieces_ne_nil _ _

theorem Replaces.frame (replaces : Replaces region text results) (outer : Region) (before after : List Char)
    (clears : ∀ head, region.clear head → outer.clear (before ++ head)) :
    Replaces outer (before ++ text ++ after) (results.map fun result => before ++ result ++ after) := by
  obtain @⟨head, body, tail, clear, plain⟩ := replaces
  have framed := Replaces.intro (tail ++ after) (clears head clear) plain
  simpa [Function.comp_def] using framed

theorem Region.clear_append {outer : Region} {before head : List Char} (absent : '\x7d' ∉ before)
    (clear : Region.inside.clear head) : outer.clear (before ++ head) :=
  outer.clear_of_not_mem (List.not_mem_append absent clear)

mutual

theorem Braced.replaces {region : Region} (tree : Braced region) {trees : List (Braced region)}
    (found : tree.resolve = some trees) : Replaces region tree.text (trees.map (·.text)) := by
  match region, tree with
  | _, .nil => cases found
  | region, .char c plain rest =>
    obtain ⟨rests, later, rfl⟩ := Option.map_eq_some_iff.mp found
    have framed := (rest.replaces later).frame region [c] [] fun _ => Region.clear_cons plain
    simpa [Braced.text, Function.comp_def] using framed
  | region, .group content rest =>
    rw [Braced.resolve] at found
    split at found
    · next contents inner =>
      cases found
      have framed := (content.replaces inner).frame region ['\x7b'] ('\x7d' :: rest.text) fun _ =>
        Region.clear_append (by decide)
      simpa [Braced.text, Function.comp_def] using framed
    · next inner =>
      cases found
      have flat := content.depth_of_resolve inner
      have replaced := Replaces.intro rest.text (region.clear_of_not_mem List.not_mem_nil)
        (Alternatives.isBrace_of_depth flat)
      rw [Alternatives.pieces_text flat] at replaced
      simpa [Braced.text, Braced.text_append, Function.comp_def] using replaced
  | _, .opener rest =>
    obtain ⟨rests, later, rfl⟩ := Option.map_eq_some_iff.mp found
    have framed := (rest.replaces later).frame .back ['\x7b'] [] fun _ =>
      List.not_mem_cons_of_ne_of_not_mem (by decide)
    simpa [Braced.text, Function.comp_def] using framed
  | _, .closer rest =>
    obtain ⟨rests, later, rfl⟩ := Option.map_eq_some_iff.mp found
    have framed := (rest.replaces later).frame .front ['\x7d'] [] fun _ => Region.clear_closer
    simpa [Braced.text, Function.comp_def] using framed
  | _, .last rest =>
    obtain ⟨rests, later, rfl⟩ := Option.map_eq_some_iff.mp found
    have framed := (rest.replaces later).frame .front [] [] fun _ => Region.clear_of_not_mem .front
    simpa [Braced.text, Function.comp_def] using framed

theorem Alternatives.replaces (content : Alternatives) {contents : List Alternatives}
    (found : content.resolve = some contents) : Replaces .inside content.text (contents.map (·.text)) := by
  match content with
  | .only option =>
    obtain ⟨options, inner, rfl⟩ := Option.map_eq_some_iff.mp found
    simpa [Alternatives.text, Function.comp_def] using option.replaces inner
  | .more option others =>
    rw [Alternatives.resolve] at found
    split at found
    · next options first =>
      cases found
      have framed := (option.replaces first).frame .inside [] (',' :: others.text) fun _ => id
      simpa [Alternatives.text, Function.comp_def] using framed
    · next first =>
      obtain ⟨rests, later, rfl⟩ := Option.map_eq_some_iff.mp found
      have absent : '\x7d' ∉ option.text ++ [','] :=
        List.not_mem_append (option.clear_of_depth (option.depth_of_resolve first)) (by decide)
      have framed := (others.replaces later).frame .inside (option.text ++ [',']) [] fun _ =>
        Region.clear_append absent
      simpa [Alternatives.text, Function.comp_def] using framed

end

end Replacing

section Meaning
variable {region : Region} {trees : List (Braced region)} {contents : List Alternatives} {result : List Char}

theorem flatMap_meanings_map {outer : Region} {wrap : Braced region → Braced outer} {f : List Char → List Char}
    (wraps : ∀ tree, (wrap tree).meanings = tree.meanings.map f) :
    (trees.map wrap).flatMap (·.meanings) = (trees.flatMap (·.meanings)).map f := by
  rw [List.flatMap_map, List.map_flatMap]
  exact List.flatMap_congr fun tree _ => wraps tree

theorem flatMap_meanings_group (rest : Braced region) : (contents.map (Braced.group · rest)).flatMap (·.meanings) =
    (contents.flatMap (·.meanings)).flatMap fun first => rest.meanings.map (first ++ ·) := by
  rw [List.flatMap_map, List.flatMap_assoc]
  exact List.flatMap_congr fun _ _ => rfl

theorem meanings_group (content : Alternatives) (rest : Braced region) :
    (content.options.map (·.append rest)).flatMap (·.meanings) = (Braced.group content rest).meanings := by
  rw [Braced.meanings, content.meanings_eq, List.flatMap_map, List.flatMap_assoc]
  exact List.flatMap_congr fun option _ => option.meanings_append rest

mutual

theorem Braced.mem_meanings {region : Region} (tree : Braced region) {trees : List (Braced region)}
    (found : tree.resolve = some trees) {result : List Char} :
    result ∈ tree.meanings ↔ result ∈ trees.flatMap (·.meanings) := by
  match region, tree with
  | _, .nil => cases found
  | region, .char c plain rest =>
    obtain ⟨rests, later, rfl⟩ := Option.map_eq_some_iff.mp found
    rw [flatMap_meanings_map fun _ => rfl, Braced.meanings, List.mem_map, List.mem_map]
    simp only [rest.mem_meanings later]
  | region, .group content rest =>
    rw [Braced.resolve] at found
    split at found
    · next contents inner =>
      cases found
      rw [flatMap_meanings_group, Braced.meanings, List.mem_flatMap, List.mem_flatMap]
      simp only [content.mem_meanings inner]
    · cases found
      rw [meanings_group]
  | _, .opener rest =>
    obtain ⟨rests, later, rfl⟩ := Option.map_eq_some_iff.mp found
    rw [flatMap_meanings_map fun _ => rfl, Braced.meanings, List.mem_map, List.mem_map]
    simp only [rest.mem_meanings later]
  | _, .closer rest =>
    obtain ⟨rests, later, rfl⟩ := Option.map_eq_some_iff.mp found
    rw [flatMap_meanings_map fun _ => rfl, Braced.meanings, List.mem_map, List.mem_map]
    simp only [rest.mem_meanings later]
  | _, .last rest =>
    obtain ⟨rests, later, rfl⟩ := Option.map_eq_some_iff.mp found
    rw [List.flatMap_map]
    exact rest.mem_meanings later

theorem Alternatives.mem_meanings (content : Alternatives) {contents : List Alternatives}
    (found : content.resolve = some contents) {result : List Char} :
    result ∈ content.meanings ↔ result ∈ contents.flatMap (·.meanings) := by
  match content with
  | .only option =>
    obtain ⟨options, inner, rfl⟩ := Option.map_eq_some_iff.mp found
    rw [List.flatMap_map]
    exact option.mem_meanings inner
  | .more option others =>
    rw [Alternatives.resolve] at found
    split at found
    · next options first =>
      cases found
      -- The other alternatives stay beside each replacement, so they are kept only if there is one.
      have inhabited : options ≠ [] := fun none => (option.replaces first).ne_nil (by rw [none, List.map_nil])
      obtain ⟨one, listed⟩ := List.exists_mem_of_ne_nil options inhabited
      rw [List.flatMap_map, Alternatives.meanings, List.mem_append, option.mem_meanings first, List.mem_flatMap,
        List.mem_flatMap]
      simp only [Alternatives.meanings, List.mem_append, and_or_left, exists_or, exists_and_right]
      exact or_congr_right ⟨fun member => ⟨⟨one, listed⟩, member⟩, And.right⟩
    · next first =>
      obtain ⟨rests, later, rfl⟩ := Option.map_eq_some_iff.mp found
      have inhabited : rests ≠ [] := fun none => (others.replaces later).ne_nil (by rw [none, List.map_nil])
      obtain ⟨one, listed⟩ := List.exists_mem_of_ne_nil rests inhabited
      rw [List.flatMap_map, Alternatives.meanings, List.mem_append, others.mem_meanings later, List.mem_flatMap,
        List.mem_flatMap]
      simp only [Alternatives.meanings, List.mem_append, and_or_left, exists_or, exists_and_right]
      exact or_congr_left ⟨fun member => ⟨⟨one, listed⟩, member⟩, And.right⟩

end

theorem Alternatives.resolve_of_depth {content : Alternatives} (flat : content.depth = 0) : content.resolve = none := by
  match content with
  | .only option => exact Option.map_eq_none_iff.mpr (option.resolve_of_depth flat)
  | .more option others =>
    rw [Alternatives.depth, Nat.max_eq_zero_iff] at flat
    rw [Alternatives.resolve, option.resolve_of_depth flat.1]
    exact Option.map_eq_none_iff.mpr (resolve_of_depth flat.2)

theorem depth_map {outer : Region} {wrap : Braced region → Braced outer}
    (wraps : ∀ tree, (wrap tree).depth = tree.depth) (flat : ∀ tree ∈ trees, tree.depth ≤ 1) :
    ∀ tree ∈ trees.map wrap, tree.depth ≤ 1 := by
  intro tree member
  obtain ⟨inner, listed, rfl⟩ := List.mem_map.mp member
  exact (wraps inner).trans_le (flat inner listed)

theorem Braced.meanings_resolve {region : Region} (tree : Braced region) {trees : List (Braced region)}
    (found : tree.resolve = some trees) (flat : tree.depth ≤ 1) :
    tree.meanings = trees.flatMap (·.meanings) ∧ ∀ other ∈ trees, other.depth ≤ 1 := by
  match region, tree with
  | _, .nil => cases found
  | region, .char c plain rest =>
    obtain ⟨rests, later, rfl⟩ := Option.map_eq_some_iff.mp found
    obtain ⟨same, flat⟩ := rest.meanings_resolve later flat
    rw [flatMap_meanings_map fun _ => rfl, ← same]
    exact ⟨rfl, depth_map (fun _ => rfl) flat⟩
  | region, .group content rest =>
    rw [Braced.depth, Nat.max_le] at flat
    have simple : content.depth = 0 := by omega
    rw [Braced.resolve, Alternatives.resolve_of_depth simple] at found
    cases found
    refine ⟨(meanings_group content rest).symm, ?_⟩
    intro other member
    obtain ⟨option, listed, rfl⟩ := List.mem_map.mp member
    have shallow := Alternatives.depth_of_mem listed
    rw [Braced.depth_append]
    omega
  | _, .opener rest =>
    obtain ⟨rests, later, rfl⟩ := Option.map_eq_some_iff.mp found
    obtain ⟨same, flat⟩ := rest.meanings_resolve later flat
    rw [flatMap_meanings_map fun _ => rfl, ← same]
    exact ⟨rfl, depth_map (fun _ => rfl) flat⟩
  | _, .closer rest =>
    obtain ⟨rests, later, rfl⟩ := Option.map_eq_some_iff.mp found
    obtain ⟨same, flat⟩ := rest.meanings_resolve later flat
    rw [flatMap_meanings_map fun _ => rfl, ← same]
    exact ⟨rfl, depth_map (fun _ => rfl) flat⟩
  | _, .last rest =>
    obtain ⟨rests, later, rfl⟩ := Option.map_eq_some_iff.mp found
    obtain ⟨same, flat⟩ := rest.meanings_resolve later flat
    rw [List.flatMap_map]
    exact ⟨same, depth_map (fun _ => rfl) flat⟩

end Meaning

def replaceWithin : Nat → List Char → List (List Char)
  | 0, pattern => [pattern]
  | bound + 1, pattern =>
    match firstGroup? pattern with
    | none => [pattern]
    | some (head, body, tail) =>
      (Text.pieces ',' body).flatMap fun option => replaceWithin bound (head ++ option ++ tail)

def expansion (pattern : List Char) : List (List Char) := replaceWithin (pattern.count '\x7b') pattern

section Expanding
variable {pattern head body tail : List Char} {bound : Nat}

theorem firstGroup?_eq_some (found : firstGroup? pattern = some (head, body, tail)) :
    pattern = head ++ '\x7b' :: (body ++ '\x7d' :: tail) ∧ ∀ c ∈ body, isBrace c = false := by
  induction pattern generalizing head with
  | nil => cases found
  | cons c rest ih =>
    unfold firstGroup? at found
    dsimp only at found
    split at found
    · next dropped =>
      cases found
      constructor
      · rw [List.nil_append, ← dropped, drop_takeWhile, List.takeWhile_append_dropWhile]
      · intro c member
        simpa using List.mem_takeWhile_imp member
    · obtain ⟨⟨first, _, _⟩, later, same⟩ := Option.map_eq_some_iff.mp found
      cases same
      obtain ⟨split, plain⟩ := ih later
      exact ⟨congrArg _ split, plain⟩

theorem count_option (found : firstGroup? pattern = some (head, body, tail)) {option : List Char}
    (member : option ∈ Text.pieces ',' body) : (head ++ option ++ tail).count '\x7b' < pattern.count '\x7b' := by
  obtain ⟨rfl, plain⟩ := firstGroup?_eq_some found
  have absent : '\x7b' ∉ option := by
    intro inside
    have brace := plain _ (Text.subset_of_mem_pieces member inside)
    cases brace
  rw [List.count_append, List.count_append, List.count_eq_zero.mpr absent, List.count_append, List.count_cons_self,
    List.count_append, List.count_cons_of_ne (by decide)]
  omega

theorem replaceWithin_of_none (none : firstGroup? pattern = none) : replaceWithin bound pattern = [pattern] := by
  cases bound with
  | zero => rfl
  | succ bound => rw [replaceWithin, none]

theorem firstGroup?_of_count (absent : pattern.count '\x7b' = 0) : firstGroup? pattern = none := by
  cases found : firstGroup? pattern with
  | none => rfl
  | some group =>
    rw [(firstGroup?_eq_some found).1, List.count_append, List.count_cons_self] at absent
    omega

theorem replaceWithin_congr {bound' : Nat} (enough : pattern.count '\x7b' ≤ bound)
    (enough' : pattern.count '\x7b' ≤ bound') : replaceWithin bound pattern = replaceWithin bound' pattern := by
  induction bound generalizing pattern bound' with
  | zero =>
    have none := firstGroup?_of_count (Nat.le_zero.mp enough)
    rw [replaceWithin_of_none none, replaceWithin_of_none none]
  | succ bound ih =>
    cases found : firstGroup? pattern with
    | none => rw [replaceWithin_of_none found, replaceWithin_of_none found]
    | some group =>
      obtain ⟨head, body, tail⟩ := group
      cases bound' with
      | zero =>
        rw [firstGroup?_of_count (Nat.le_zero.mp enough')] at found
        cases found
      | succ bound' =>
        rw [replaceWithin, replaceWithin, found]
        refine List.flatMap_congr fun option member => ih ?_ ?_
        all_goals
          have fewer := count_option found member
          omega

theorem expansion_of_none (none : firstGroup? pattern = none) : expansion pattern = [pattern] :=
  replaceWithin_of_none none

theorem expansion_of_some (found : firstGroup? pattern = some (head, body, tail)) :
    expansion pattern = (Text.pieces ',' body).flatMap fun option => expansion (head ++ option ++ tail) := by
  rw [expansion, replaceWithin_congr (Nat.le_refl _) (Nat.le_succ _), replaceWithin, found]
  refine List.flatMap_congr fun option member => replaceWithin_congr ?_ (Nat.le_refl _)
  exact (count_option found member).le

theorem replacing_induction {motive : List Char → Prop} (none : ∀ pattern, firstGroup? pattern = none → motive pattern)
    (some : ∀ pattern head body tail, firstGroup? pattern = some (head, body, tail) →
      (∀ option ∈ Text.pieces ',' body, motive (head ++ option ++ tail)) → motive pattern)
    (pattern : List Char) : motive pattern := by
  induction counted : pattern.count '\x7b' using Nat.strong_induction_on generalizing pattern with
  | h count ih =>
    cases found : firstGroup? pattern with
    | none => exact none pattern found
    | some group =>
      obtain ⟨head, body, tail⟩ := group
      refine some pattern head body tail found fun option member => ih _ ?_ _ rfl
      exact counted ▸ count_option found member

theorem firstGroup?_of_mem_expansion {result : List Char} (member : result ∈ expansion pattern) :
    firstGroup? result = none := by
  induction pattern using replacing_induction with
  | none pattern found =>
    rw [expansion_of_none found, List.mem_singleton] at member
    exact member ▸ found
  | some pattern head body tail found ih =>
    rw [expansion_of_some found, List.mem_flatMap] at member
    obtain ⟨option, listed, member⟩ := member
    exact ih option listed member

end Expanding

section Denoting
variable {region : Region}

theorem Replaces.expansion_eq {text : List Char} {results : List (List Char)}
    (replaces : Replaces region text results) : expansion text = results.flatMap expansion := by
  obtain ⟨_, clear, plain⟩ := replaces
  rw [expansion_of_some (Region.firstGroup?_append clear plain _), List.flatMap_map]

theorem Braced.expansion_of_resolve {tree : Braced region} (found : tree.resolve = none) :
    expansion tree.text = tree.meanings := by
  have flat := tree.depth_of_resolve found
  rw [expansion_of_none (Region.firstGroup?_of_clear (tree.clear_of_depth flat)), tree.meanings_of_depth flat]

theorem Replaces.count_lt {text result : List Char} {results : List (List Char)}
    (replaces : Replaces region text results) (member : result ∈ results) :
    result.count '\x7b' < text.count '\x7b' := by
  obtain ⟨_, clear, plain⟩ := replaces
  obtain ⟨option, listed, rfl⟩ := List.mem_map.mp member
  exact count_option (Region.firstGroup?_append clear plain _) listed

theorem Braced.resolve_induction {motive : Braced region → Prop} (settled : ∀ tree, tree.resolve = none → motive tree)
    (replaced : ∀ tree trees, tree.resolve = some trees → (∀ other ∈ trees, motive other) → motive tree)
    (tree : Braced region) : motive tree := by
  induction counted : tree.text.count '\x7b' using Nat.strong_induction_on generalizing tree with
  | h count ih =>
    cases found : tree.resolve with
    | none => exact settled tree found
    | some trees =>
      refine replaced tree trees found fun other member => ih _ ?_ other rfl
      exact counted ▸ (tree.replaces found).count_lt (List.mem_map_of_mem member)

theorem Braced.mem_expansion (tree : Braced region) (result : List Char) :
    result ∈ expansion tree.text ↔ result ∈ tree.meanings := by
  induction tree using resolve_induction with
  | settled tree found => rw [expansion_of_resolve found]
  | replaced tree trees found ih =>
    rw [(tree.replaces found).expansion_eq, tree.mem_meanings found, List.flatMap_map, List.mem_flatMap,
      List.mem_flatMap]
    exact exists_congr fun other => and_congr_right (ih other)

theorem Braced.expansion_of_depth (tree : Braced region) (flat : tree.depth ≤ 1) :
    expansion tree.text = tree.meanings := by
  induction tree using resolve_induction with
  | settled tree found => exact expansion_of_resolve found
  | replaced tree trees found ih =>
    obtain ⟨same, flat⟩ := tree.meanings_resolve found flat
    rw [(tree.replaces found).expansion_eq, same, List.flatMap_map]
    exact List.flatMap_congr fun other member => ih other member (flat other member)

end Denoting

section Reading
variable {region : Region}

theorem Alternatives.exists_cons {c : Char} (plain : isBrace c = false) (content : Alternatives) :
    ∃ longer : Alternatives, longer.text = c :: content.text := by
  by_cases comma : c = ','
  · exact ⟨.more .nil content, comma ▸ rfl⟩
  · have admitted : Region.inside.admits c = true := by simp [Region.admits, plain, comma]
    cases content with
    | only option => exact ⟨.only (.char c admitted option), rfl⟩
    | more option others => exact ⟨.more (.char c admitted option) others, rfl⟩

theorem Alternatives.exists_group (first content : Alternatives) :
    ∃ longer : Alternatives, longer.text = '\x7b' :: (first.text ++ '\x7d' :: content.text) := by
  cases content with
  | only option => exact ⟨.only (.group first option), rfl⟩
  | more option others => exact ⟨.more (.group first option) others, by simp [Alternatives.text, Braced.text]⟩

theorem Braced.split (tree : Braced .front) : (∃ other : Braced .back, other.text = tree.text) ∨
    ∃ (content : Alternatives) (rest : Braced .front), tree.text = content.text ++ '\x7d' :: rest.text := by
  match tree with
  | .nil => exact .inl ⟨.nil, rfl⟩
  | .char c plain rest =>
    rcases rest.split with ⟨other, same⟩ | ⟨content, later, same⟩
    · exact .inl ⟨.char c plain other, congrArg (c :: ·) same⟩
    · obtain ⟨longer, written⟩ := content.exists_cons (Region.isBrace_of_admits plain)
      exact .inr ⟨longer, later, by rw [Braced.text, same, written, List.cons_append]⟩
  | .group first rest =>
    rcases rest.split with ⟨other, same⟩ | ⟨content, later, same⟩
    · exact .inl ⟨.group first other, by rw [Braced.text, Braced.text, same]⟩
    · obtain ⟨longer, written⟩ := first.exists_group content
      exact .inr ⟨longer, later, by simp [Braced.text, same, written]⟩
  | .closer rest => exact .inr ⟨.only .nil, rest, rfl⟩
  | .last rest => exact .inl ⟨rest, rfl⟩

theorem Braced.exists_text (pattern : List Char) : ∃ tree : Braced .front, tree.text = pattern := by
  induction pattern with
  | nil => exact ⟨.nil, rfl⟩
  | cons c rest ih =>
    obtain ⟨tree, rfl⟩ := ih
    by_cases opens : c = '\x7b'
    · rcases tree.split with ⟨other, same⟩ | ⟨content, later, same⟩
      · exact ⟨.last (.opener other), by rw [opens, ← same]; rfl⟩
      · exact ⟨.group content later, by rw [opens, same]; rfl⟩
    · by_cases closes : c = '\x7d'
      · exact ⟨.closer tree, closes ▸ rfl⟩
      · have plain : Region.front.admits c = true := by simp [Region.admits, isBrace, opens, closes]
        exact ⟨.char c plain tree, rfl⟩

/-- Whether braces are well nested where some groups are open: every closing brace closes one of them or a later one,
and in the end none is open. -/
inductive IsNested : Nat → List Char → Prop
  | nil : IsNested 0 []
  | char {levels : Nat} {c : Char} {rest : List Char} (plain : isBrace c = false) (later : IsNested levels rest) :
    IsNested levels (c :: rest)
  | opener {levels : Nat} {rest : List Char} (later : IsNested (levels + 1) rest) : IsNested levels ('\x7b' :: rest)
  | closer {levels : Nat} {rest : List Char} (later : IsNested levels rest) : IsNested (levels + 1) ('\x7d' :: rest)

theorem isNested_cons_iff {levels : Nat} {c : Char} {rest : List Char} (plain : isBrace c = false) :
    IsNested levels (c :: rest) ↔ IsNested levels rest := by
  refine ⟨fun nested => ?_, .char plain⟩
  cases nested with
  | char _ later => exact later
  | opener later => cases plain
  | closer later => cases plain

theorem isNested_opener_iff {levels : Nat} {rest : List Char} :
    IsNested levels ('\x7b' :: rest) ↔ IsNested (levels + 1) rest := by
  refine ⟨fun nested => ?_, .opener⟩
  cases nested with
  | char plain _ => cases plain
  | opener later => exact later

theorem isNested_closer_iff {levels : Nat} {rest : List Char} :
    IsNested levels ('\x7d' :: rest) ↔ ∃ fewer, levels = fewer + 1 ∧ IsNested fewer rest := by
  constructor
  · intro nested
    cases nested with
    | char plain _ => cases plain
    | closer later => exact ⟨_, rfl, later⟩
  · rintro ⟨fewer, rfl, later⟩
    exact .closer later

mutual

theorem Braced.isNested_inside (tree : Braced .inside) {levels : Nat} {rest : List Char} :
    IsNested levels (tree.text ++ rest) ↔ IsNested levels rest := by
  match tree with
  | .nil => rfl
  | .char c plain more => exact (isNested_cons_iff (Region.isBrace_of_admits plain)).trans more.isNested_inside
  | .group content more =>
    rw [Braced.text, List.cons_append, List.append_assoc, List.cons_append, isNested_opener_iff,
      content.isNested_append, isNested_closer_iff]
    simp [more.isNested_inside]

theorem Alternatives.isNested_append (content : Alternatives) {levels : Nat} {rest : List Char} :
    IsNested levels (content.text ++ rest) ↔ IsNested levels rest := by
  match content with
  | .only option => exact option.isNested_inside
  | .more option others =>
    rw [Alternatives.text, List.append_assoc, option.isNested_inside, List.cons_append,
      isNested_cons_iff (by decide), others.isNested_append]

end

theorem isNested_group_iff {content : Alternatives} {levels : Nat} {rest : List Char} :
    IsNested levels ('\x7b' :: (content.text ++ '\x7d' :: rest)) ↔ IsNested levels rest := by
  rw [isNested_opener_iff, content.isNested_append, isNested_closer_iff]
  simp

theorem Braced.isNested_whole (tree : Braced .whole) : IsNested 0 tree.text := by
  match tree with
  | .nil => exact .nil
  | .char c plain rest => exact .char (Region.isBrace_of_admits plain) rest.isNested_whole
  | .group content rest => exact isNested_group_iff.mpr rest.isNested_whole

theorem Braced.whole_of_back (tree : Braced .back) {levels : Nat} (nested : IsNested levels tree.text) :
    levels = 0 ∧ ∃ other : Braced .whole, other.text = tree.text := by
  match tree with
  | .nil =>
    cases nested
    exact ⟨rfl, .nil, rfl⟩
  | .char c plain rest =>
    obtain ⟨closed, other, same⟩ := rest.whole_of_back ((isNested_cons_iff (Region.isBrace_of_admits plain)).mp nested)
    exact ⟨closed, .char c plain other, congrArg (c :: ·) same⟩
  | .group content rest =>
    obtain ⟨closed, other, same⟩ := rest.whole_of_back (isNested_group_iff.mp nested)
    exact ⟨closed, .group content other, by rw [Braced.text, Braced.text, same]⟩
  | .opener rest => cases (rest.whole_of_back (isNested_opener_iff.mp nested)).1

theorem Braced.whole_of_front (tree : Braced .front) (nested : IsNested 0 tree.text) :
    ∃ other : Braced .whole, other.text = tree.text := by
  match tree with
  | .nil => exact ⟨.nil, rfl⟩
  | .char c plain rest =>
    obtain ⟨other, same⟩ := rest.whole_of_front ((isNested_cons_iff (Region.isBrace_of_admits plain)).mp nested)
    exact ⟨.char c plain other, congrArg (c :: ·) same⟩
  | .group content rest =>
    obtain ⟨other, same⟩ := rest.whole_of_front (isNested_group_iff.mp nested)
    exact ⟨.group content other, by rw [Braced.text, Braced.text, same]⟩
  | .closer rest => cases (isNested_closer_iff.mp nested).choose_spec.1
  | .last rest => exact (rest.whole_of_back nested).2

end Reading

section Counting
variable {pattern head body tail : List Char} {opened : Nat}

/-- The number of closing braces that have a partner, where some braces are open in front of a text. -/
def pairs : Nat → List Char → Nat
  | _, [] => 0
  | opened, c :: rest =>
    if c = '\x7b' then pairs (opened + 1) rest
    else if c = '\x7d' then
      match opened with
      | 0 => pairs 0 rest
      | opened + 1 => pairs opened rest + 1
    else pairs opened rest

def groups (pattern : List Char) : Nat := pairs 0 pattern

theorem pairs_cons_of_plain {c : Char} (plain : isBrace c = false) (rest : List Char) :
    pairs opened (c :: rest) = pairs opened rest := by
  simp only [isBrace, Bool.or_eq_false_iff, beq_eq_false_iff_ne] at plain
  rw [pairs.eq_def]
  simp [plain.1, plain.2]

theorem pairs_append_of_plain {text : List Char} (plain : ∀ c ∈ text, isBrace c = false) (rest : List Char) :
    pairs opened (text ++ rest) = pairs opened rest := by
  induction text with
  | nil => rfl
  | cons c text ih =>
    obtain ⟨first, plain⟩ := List.forall_mem_cons.mp plain
    rw [List.cons_append, pairs_cons_of_plain first, ih plain]

theorem pairs_group {option : List Char} (plain : ∀ c ∈ body, isBrace c = false)
    (plain' : ∀ c ∈ option, isBrace c = false) (head tail : List Char) :
    pairs opened (head ++ '\x7b' :: (body ++ '\x7d' :: tail)) = pairs opened (head ++ option ++ tail) + 1 := by
  induction head generalizing opened with
  | nil =>
    rw [List.nil_append, List.nil_append, pairs_append_of_plain plain']
    change pairs (opened + 1) (body ++ '\x7d' :: tail) = _
    rw [pairs_append_of_plain plain]
    rfl
  | cons c head ih =>
    rw [List.cons_append, List.cons_append, List.cons_append, pairs.eq_def, pairs.eq_def _ (c :: _)]
    dsimp only
    split
    · exact ih
    · split
      · cases opened with
        | zero => exact ih
        | succ opened => exact congrArg (· + 1) ih
      · exact ih

theorem pairs_of_no_closer {text : List Char} (absent : '\x7d' ∉ text) : pairs opened text = 0 := by
  induction text generalizing opened with
  | nil => rfl
  | cons c text ih =>
    obtain ⟨other, absent⟩ := List.ne_and_not_mem_of_not_mem_cons absent
    rw [pairs.eq_def]
    dsimp only
    rw [if_neg other.symm, ih absent, ih absent, ite_self]

theorem pairs_of_no_opener {closed : List Char} (absent : '\x7b' ∉ closed) (rest : List Char) :
    pairs 0 (closed ++ rest) = pairs 0 rest := by
  induction closed with
  | nil => rfl
  | cons c closed ih =>
    obtain ⟨other, absent⟩ := List.ne_and_not_mem_of_not_mem_cons absent
    rw [List.cons_append, pairs.eq_def]
    dsimp only
    rw [if_neg other.symm, ih absent, ite_self]

theorem pairs_append_right {trail : List Char} (absent : '\x7d' ∉ trail) (text : List Char) :
    pairs opened (text ++ trail) = pairs opened text := by
  induction text generalizing opened with
  | nil => exact pairs_of_no_closer absent
  | cons c text ih =>
    cases opened with
    | zero => simp only [List.cons_append, pairs, ih]
    | succ opened => simp only [List.cons_append, pairs, ih]

theorem groups_of_none (none : firstGroup? pattern = none) : groups pattern = 0 := by
  obtain ⟨tree, rfl⟩ := Braced.exists_text pattern
  cases found : tree.resolve with
  | none =>
    obtain ⟨closed, opened, same, noOpener, noCloser⟩ := tree.clear_of_depth (tree.depth_of_resolve found)
    rw [same, groups, pairs_of_no_opener noOpener, pairs_of_no_closer noCloser]
  | some trees =>
    have replaces := tree.replaces found
    generalize tree.text = pattern, trees.map (·.text) = results at none replaces
    obtain ⟨_, clear, plain⟩ := replaces
    rw [Region.firstGroup?_append clear plain] at none
    cases none

theorem groups_option (found : firstGroup? pattern = some (head, body, tail)) {option : List Char}
    (member : option ∈ Text.pieces ',' body) : groups pattern = groups (head ++ option ++ tail) + 1 := by
  obtain ⟨rfl, plain⟩ := firstGroup?_eq_some found
  exact pairs_group plain (fun c inside => plain c (Text.subset_of_mem_pieces member inside)) head tail

/-- An expansion needs a call for the pattern and one for each of its groups, and nothing but too few of them stops
it. -/
theorem expandWithin_eq (calls : Nat) (pattern : List Char) : expandWithin calls pattern =
    if groups pattern < calls then .ok (expansion pattern) else .error .nestingTooDeep := by
  induction calls generalizing pattern with
  | zero => rw [expandWithin, if_neg (Nat.not_lt_zero _)]
  | succ calls ih =>
    cases found : firstGroup? pattern with
    | none =>
      rw [expandWithin, found, groups_of_none found, if_pos (Nat.succ_pos _), expansion_of_none found]
      rfl
    | some group =>
      obtain ⟨head, body, tail⟩ := group
      rw [expandWithin, found]
      dsimp only
      by_cases few : groups pattern < calls + 1
      · have each (option : List Char) (member : option ∈ Text.pieces ',' body) :
            expandWithin calls (head ++ option ++ tail) = .ok (expansion (head ++ option ++ tail)) := by
          rw [ih, if_pos]
          have one := groups_option found member
          omega
        rw [if_pos few, Outcome.mapM_of_ok each, expansion_of_some found, List.flatMap_def]
        rfl
      · obtain ⟨option, others, listed⟩ := List.exists_cons_of_ne_nil (Text.pieces_ne_nil ',' body)
        have one := groups_option found (listed ▸ List.mem_cons_self : option ∈ Text.pieces ',' body)
        rw [if_neg few, listed, List.mapM_cons, ih, if_neg (by omega)]
        rfl

theorem expand_of_few (few : groups pattern < expansionLimit) : expand pattern = .ok (expansion pattern) := by
  rw [expand, expandWithin_eq, if_pos few]

theorem expand_of_many (many : expansionLimit ≤ groups pattern) : expand pattern = .error .nestingTooDeep := by
  rw [expand, expandWithin_eq, if_neg (Nat.not_lt.mpr many)]

end Counting

/-- Whether some texts are what a pattern stands for: none of them has a group that holds no brace, and however the
pattern is read with its groups, they are the texts that it denotes, in the same order and number where no group holds
another one. -/
structure IsExpansion (pattern : List Char) (results : List (List Char)) : Prop where
  resolved : ∀ result ∈ results, ∀ before body after, result = before ++ '\x7b' :: (body ++ '\x7d' :: after) →
    ∃ c ∈ body, isBrace c = true
  denoted : ∀ (region : Region) (tree : Braced region), tree.text = pattern →
    ∀ result, result ∈ results ↔ result ∈ tree.meanings
  ordered : ∀ (region : Region) (tree : Braced region), tree.text = pattern → tree.depth ≤ 1 →
    results = tree.meanings

/-- Whether a pattern can be read with its groups, where well-nested braces all belong to groups. -/
structure IsReadable (pattern : List Char) : Prop where
  reading : ∃ tree : Braced .front, tree.text = pattern
  nested : IsNested 0 pattern ↔ ∃ tree : Braced .whole, tree.text = pattern

theorem isExpansion_expansion (pattern : List Char) : IsExpansion pattern (expansion pattern) where
  resolved := by
    intro result member before body after same
    by_contra plain
    have plain : ∀ c ∈ body, isBrace c = false := by simpa using plain
    have left := firstGroup?_isSome before plain after
    rw [← same, firstGroup?_of_mem_expansion member] at left
    cases left
  denoted := by
    rintro region tree rfl
    exact tree.mem_expansion
  ordered := by
    rintro region tree rfl
    exact tree.expansion_of_depth

theorem isReadable (pattern : List Char) : IsReadable pattern where
  reading := Braced.exists_text pattern
  nested := by
    constructor
    · obtain ⟨tree, rfl⟩ := Braced.exists_text pattern
      exact tree.whole_of_front
    · rintro ⟨tree, rfl⟩
      exact tree.isNested_whole

/-- Every pattern has its expansion. Expanding it gives just this where the pattern has fewer groups than calls can be
open, and gives up in all other cases; any greater number of calls would do as well. -/
theorem expand_exact (pattern : List Char) : IsReadable pattern ∧ ∃ results, IsExpansion pattern results ∧
    (expand pattern = if groups pattern < expansionLimit then .ok results else .error .nestingTooDeep) ∧
    ∀ calls, groups pattern < calls → expandWithin calls pattern = .ok results :=
  ⟨isReadable pattern, expansion pattern, isExpansion_expansion pattern, expandWithin_eq _ pattern, fun calls enough =>
    (expandWithin_eq calls pattern).trans (if_pos enough)⟩

def pair (c d : Char) (plain : Region.inside.admits c = true) (plain' : Region.inside.admits d = true) :
    Alternatives :=
  .more (.char c plain .nil) (.only (.char d plain' .nil))

theorem expand_exact_groups :
    (∃ results, expand "\x7bx\x7ba,b\x7d,y\x7d".toList = .ok results ∧
      ∀ result, result ∈ results ↔ result ∈ [['x', 'a'], ['x', 'b'], ['y']]) ∧
    expandWithin 3 "\x7ba,b\x7d\x7bc,d\x7d".toList = .ok [['a', 'c'], ['a', 'd'], ['b', 'c'], ['b', 'd']] := by
  obtain ⟨_, nested, meant, expanded, _⟩ := expand_exact "\x7bx\x7ba,b\x7d,y\x7d".toList
  obtain ⟨_, flat, meant', _, within⟩ := expand_exact "\x7ba,b\x7d\x7bc,d\x7d".toList
  constructor
  · refine ⟨nested, expanded.trans (if_pos (by decide)), ?_⟩
    exact meant.denoted .whole (.group (.more (.char 'x' rfl (.group (pair 'a' 'b' rfl rfl) .nil))
      (.only (.char 'y' rfl .nil))) .nil) (by decide)
  · rw [within 3 (by decide)]
    exact congrArg _ (meant'.ordered .whole (.group (pair 'a' 'b' rfl rfl) (.group (pair 'c' 'd' rfl rfl) .nil))
      (by decide) (by decide))

/-- Groups side by side can be too many. -/
theorem expand_replicate {count : Nat} (many : expansionLimit ≤ count) :
    expand (List.replicate count "\x7ba\x7d".toList).flatten = .error .nestingTooDeep := by
  have counted : groups (List.replicate count "\x7ba\x7d".toList).flatten = count := by
    clear many
    induction count with
    | zero => rfl
    | succ count ih => exact congrArg (· + 1) ih
  exact expand_of_many (counted.symm ▸ many)

example : expansion "\x7bx\x7ba,b\x7d,y\x7d".toList = ["xa", "y", "xb", "y"].map String.toList := by decide

end EnvAudit.Glob
