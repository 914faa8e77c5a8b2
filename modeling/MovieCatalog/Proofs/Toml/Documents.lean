import MovieCatalog.Config
import MovieCatalog.Proofs.Toml.Values

/-! Documents that are written line by line. Each line with a key that needs no quotes adds one
member, and so the lines are read as the members that they were written from. -/
namespace MovieCatalog.Toml

/-- A key with the word that spells its value. -/
structure Pair where
  key : String
  word : List Char
  value : Value

/-- What a pair has to be for its line to be read: the key needs no quotes. -/
structure Pair.Readable (pair : Pair) : Prop where
  named : pair.key.toList ≠ []
  bare : ∀ c ∈ pair.key.toList, isBare c = true
  spelled : Spells pair.word pair.value

def Pair.line (pair : Pair) : List Char := Config.line pair.key pair.word

def Pair.member (pair : Pair) : String × Item := (pair.key, .value pair.value)

variable {c : Char} {cs rest : List Char} {pair : Pair} {pairs : List Pair} {members : Members}

theorem Members.put_of_lookup {name : String} {item : Item} (h : members.lookup name = none) :
    members.put name item = members ++ [(name, item)] := by
  induction members with
  | nil => rfl
  | cons member members ih =>
    obtain ⟨other, old⟩ := member
    rw [List.lookup_cons] at h
    split at h
    · cases h
    · rename_i hne
      have hne' : ¬ other = name := fun he => beq_eq_false_iff_ne.1 hne he.symm
      rw [put, if_neg hne', ih h]
      rfl

theorem lookup_eq_none {name : String} (h : name ∉ members.map Prod.fst) :
    members.lookup name = none := by
  refine List.lookup_eq_none_iff.2 fun member hmember => bne_iff_ne.2 fun he => h ?_
  rw [he]
  exact List.mem_map_of_mem hmember

theorem isBlank_of_isBare (h : isBare c = true) : isBlank c = false := by
  rw [isBlank, beq_false_of_ne (ne_of_test h (by decide)),
    beq_false_of_ne (ne_of_test h (by decide))]
  rfl

theorem skipBlanks_cons (h : isBlank c = false) : skipBlanks (c :: rest) = c :: rest :=
  List.dropWhile_cons_of_neg (by rw [h]; exact Bool.false_ne_true)

/-- A line that begins with a key does not end before it. -/
theorem endLine?_of_isBare (h : isBare c = true) (rest : List Char) :
    endLine? (c :: rest) = none := by
  have hcomment : ∀ more, c :: rest ≠ '#' :: more := cons_ne_of_test h (by decide) rest
  have hend : ∀ more, c :: rest ≠ '\n' :: more := cons_ne_of_test h (by decide) rest
  rw [endLine?, skipBlanks_cons (isBlank_of_isBare h)]
  split
  · rename_i he
    split at he
    · rename_i hc
      exact absurd hc (hcomment _)
    · cases he
  · rename_i he
    split at he
    · rename_i hc
      exact absurd hc (hcomment _)
    · exact absurd he (hend _)
  · rfl

theorem Spells.skipBlanks {word : List Char} {value : Value} (h : Spells word value)
    (rest : List Char) : Toml.skipBlanks (' ' :: (word ++ rest)) = word ++ rest := by
  obtain ⟨c, more, rfl, hc⟩ := h.solid
  exact skipBlanks_cons hc

theorem Pair.line_append (pair : Pair) (rest : List Char) :
    pair.line ++ rest = pair.key.toList ++ ' ' :: '=' :: ' ' :: (pair.word ++ '\n' :: rest) := by
  have hequals : " = ".toList = [' ', '=', ' '] := by decide
  rw [line, Config.line, hequals]
  simp

namespace Pair.Readable

theorem key_eq_cons (h : pair.Readable) :
    ∃ c more, pair.key.toList = c :: more ∧ isBare c = true := by
  obtain ⟨c, more, hkey⟩ := List.exists_cons_of_ne_nil h.named
  exact ⟨c, more, hkey, h.bare c (by rw [hkey]; exact List.mem_cons_self)⟩

theorem line_eq_cons (h : pair.Readable) (rest : List Char) :
    ∃ c input, pair.line ++ rest = c :: input ∧ isBare c = true := by
  obtain ⟨c, more, hkey, hc⟩ := h.key_eq_cons
  rw [pair.line_append, hkey]
  exact ⟨c, _, rfl, hc⟩

theorem readName (h : pair.Readable) (rest : List Char) :
    Toml.readName (pair.key.toList ++ ' ' :: rest) = some (pair.key, ' ' :: rest) := by
  obtain ⟨c, more, hkey, hc⟩ := h.key_eq_cons
  have htake : (pair.key.toList ++ ' ' :: rest).takeWhile isBare = pair.key.toList := by
    rw [List.takeWhile_append_of_pos h.bare, List.takeWhile_cons_of_neg (by decide),
      List.append_nil]
  have hdrop : (pair.key.toList ++ ' ' :: rest).dropWhile isBare = ' ' :: rest := by
    rw [List.dropWhile_append_of_pos h.bare, List.dropWhile_cons_of_neg (by decide)]
  rw [Toml.readName]
  · simp only [htake, hdrop, String.ofList_toList]
    rw [hkey]
    rfl
  · rw [hkey]
    exact fun more' => cons_ne_of_test hc (by decide) _ more'
  · rw [hkey]
    exact fun more' => cons_ne_of_test hc (by decide) _ more'

theorem readKey (h : pair.Readable) (rest : List Char) :
    Toml.readKey (pair.key.toList ++ ' ' :: '=' :: rest) = some (⟨[], pair.key⟩, '=' :: rest) := by
  have hskip : skipBlanks (pair.key.toList ++ ' ' :: '=' :: rest) =
      pair.key.toList ++ ' ' :: '=' :: rest := by
    obtain ⟨c, more, hkey, hc⟩ := h.key_eq_cons
    rw [hkey, List.cons_append]
    exact skipBlanks_cons (isBlank_of_isBare hc)
  change readKeyOf (78 + 1) _ = _
  rw [readKeyOf, hskip, h.readName]
  rfl

theorem readPair (h : pair.Readable) (hnew : members.lookup pair.key = none) (rest : List Char) :
    Toml.readPair ⟨members, []⟩ (pair.line ++ rest) =
      some (⟨members ++ [pair.member], []⟩, rest) := by
  have hadd : Document.add ⟨members, []⟩ ⟨[], pair.key⟩ pair.value =
      some ⟨members ++ [pair.member], []⟩ := by
    rw [Document.add, Members.update, Members.add]
    simp only [hnew]
    rw [Members.put_of_lookup hnew]
    rfl
  rw [pair.line_append, Toml.readPair, h.readKey]
  simp only
  rw [h.spelled.skipBlanks, h.spelled.read]
  simp only
  rw [hadd]
  rfl

/-- The line of a pair is no header, no comment and not blank. -/
theorem readNext (h : pair.Readable) (hnew : members.lookup pair.key = none) (rest : List Char) :
    Toml.readNext ⟨members, []⟩ (pair.line ++ rest) =
      some (⟨members ++ [pair.member], []⟩, rest) := by
  have hpair := h.readPair hnew rest
  obtain ⟨c, input, hinput, hc⟩ := h.line_eq_cons rest
  rw [hinput] at hpair ⊢
  rw [Toml.readNext, skipBlanks_cons (isBlank_of_isBare hc)]
  split
  · rename_i he
    exact absurd he (cons_ne_of_test hc (by decide) _ _)
  · rename_i he
    exact absurd he (cons_ne_of_test hc (by decide) _ _)
  · rw [endLine?_of_isBare hc]
    exact hpair

end Pair.Readable

/-- Lines add their members in order, one after another. -/
theorem readDocument_lines (hreadable : ∀ pair ∈ pairs, pair.Readable)
    (hkeys : (members.map Prod.fst ++ pairs.map Pair.key).Nodup) {fuel : Nat}
    (hfuel : pairs.length ≤ fuel) (line : Nat) :
    readDocument line fuel ⟨members, []⟩ (pairs.flatMap Pair.line) =
      .ok (members ++ pairs.map Pair.member) := by
  induction pairs generalizing members fuel line with
  | nil =>
    rw [List.flatMap_nil, readDocument, List.map_nil, List.append_nil]
  | cons pair pairs ih =>
    rw [List.forall_mem_cons] at hreadable
    obtain ⟨fuel, rfl⟩ : ∃ left, fuel = left + 1 :=
      Nat.exists_eq_add_one_of_ne_zero (Nat.ne_of_gt (Nat.lt_of_lt_of_le (Nat.succ_pos _) hfuel))
    have hnew : members.lookup pair.key = none := by
      refine lookup_eq_none fun hmem => ?_
      exact (List.nodup_append.1 hkeys).2.2 _ hmem _ List.mem_cons_self rfl
    have hnext := hreadable.1.readNext hnew (pairs.flatMap Pair.line)
    have hkeys' : ((members ++ [pair.member]).map Prod.fst ++ pairs.map Pair.key).Nodup := by
      rw [List.map_append, List.append_assoc]
      exact hkeys
    obtain ⟨c, input, hinput, -⟩ := hreadable.1.line_eq_cons (pairs.flatMap Pair.line)
    rw [hinput] at hnext
    rw [List.flatMap_cons, hinput, readDocument, hnext]
    simp only
    rw [ih hreadable.2 hkeys' (Nat.le_of_succ_le_succ hfuel), List.map_cons, List.append_assoc,
      List.singleton_append]

theorem foldLineEnds_of_not_mem (h : '\r' ∉ cs) : foldLineEnds cs = cs := by
  induction cs with
  | nil => rfl
  | cons c cs ih =>
    rw [List.mem_cons, not_or] at h
    rw [foldLineEnds, ih h.2]
    rintro rest rfl
    exact absurd rfl h.1

theorem Pair.mem_line (pair : Pair) : '\n' ∈ pair.line :=
  List.mem_append_right _ (List.mem_singleton_self _)

theorem length_le_lines (pairs : List Pair) :
    pairs.length ≤ (pairs.flatMap Pair.line).length := by
  induction pairs with
  | nil => exact Nat.le_refl 0
  | cons pair pairs ih =>
    have hline : 0 < pair.line.length := List.length_pos_of_mem pair.mem_line
    rw [List.flatMap_cons, List.length_append, List.length_cons]
    omega

theorem Pair.Readable.not_mem_line (h : pair.Readable) : '\r' ∉ pair.line := by
  have hline := pair.line_append []
  rw [List.append_nil] at hline
  intro hmem
  simp only [hline, List.mem_append, List.mem_cons, List.not_mem_nil, or_false] at hmem
  rcases hmem with hmem | hmem | hmem | hmem | hmem | hmem
  · exact ne_of_test (h.bare _ hmem) (d := '\r') (by decide) rfl
  · cases hmem
  · cases hmem
  · cases hmem
  · exact ne_of_test (h.spelled.plain _ hmem) (d := '\r') (by decide) rfl
  · cases hmem

/-- A document of lines with different keys is read as the members of its lines. -/
theorem read_lines (hreadable : ∀ pair ∈ pairs, pair.Readable)
    (hkeys : (pairs.map Pair.key).Nodup) :
    read (String.ofList (pairs.flatMap Pair.line)) = .ok (pairs.map Pair.member) := by
  have hfold : foldLineEnds (pairs.flatMap Pair.line) = pairs.flatMap Pair.line := by
    refine foldLineEnds_of_not_mem fun hmem => ?_
    obtain ⟨pair, hpair, hmem⟩ := List.mem_flatMap.1 hmem
    exact (hreadable pair hpair).not_mem_line hmem
  have hmark : ∀ rest, pairs.flatMap Pair.line ≠ '\uFEFF' :: rest := by
    intro rest he
    cases pairs with
    | nil => cases he
    | cons pair pairs =>
      obtain ⟨c, input, hinput, hc⟩ :=
        (hreadable pair List.mem_cons_self).line_eq_cons (pairs.flatMap Pair.line)
      rw [List.flatMap_cons, hinput] at he
      exact cons_ne_of_test hc (by decide) _ _ he
  have hlength := length_le_lines pairs
  rw [read, String.toList_ofList]
  split
  · rename_i he
    exact absurd he (hmark _)
  · have hempty : (([] : Members).map Prod.fst ++ pairs.map Pair.key).Nodup := hkeys
    rw [hfold]
    exact readDocument_lines hreadable hempty hlength 1

end MovieCatalog.Toml
