import MarkedShader.Proofs.Text.Respaced
import MarkedShader.Code

/-! What is read off code: the name of a function is a word, and blanks do not count. -/
namespace MarkedShader
open Text

namespace Signature

lemma name_of_at? {t : Text} {s : Signature} (h : at? t = some s) :
    s.name ≠ [] ∧ ∀ c ∈ s.name, isWord c := by
  simp only [at?, Option.bind_eq_bind, Option.bind_eq_some_iff, Prod.exists] at h
  obtain ⟨ty, r, -, u, -, name, v, hname, w, -, params, x, -, hs⟩ := h
  obtain ⟨-, hne, hall, -⟩ := run?_eq_some_iff.mp hname
  obtain rfl := Option.some.inj hs
  exact ⟨hne, hall⟩

lemma name_of_searchFrom {inWord : Bool} {t : Text} {s : Signature}
    (h : searchFrom inWord t = some s) : s.name ≠ [] ∧ ∀ c ∈ s.name, isWord c := by
  induction t generalizing inWord with
  | nil => contradiction
  | cons c t ih =>
    rw [searchFrom] at h
    split at h
    · rename_i found hf
      split at hf
      · contradiction
      · exact name_of_at? (hf.trans h)
    · exact ih h

lemma name_of_find? {code : Text} {s : Signature} (h : find? code = some s) :
    s.name ≠ [] ∧ ∀ c ∈ s.name, isWord c := name_of_searchFrom h

/-- The same head with other blanks in its parameters. -/
structure Respaced (s t : Signature) : Prop where
  returnType : s.returnType = t.returnType
  name : s.name = t.name
  parameters : Text.Respaced s.parameters t.parameters

variable {a b : Text}

lemma Respaced.parameterList {s t : Signature} (h : Respaced s t) :
    List.Forall₂ Text.Respaced s.parameterList t.parameterList := by
  rw [Signature.parameterList, Signature.parameterList, h.parameters.allBlank_eq]
  split_ifs
  · exact .nil
  · rw [List.forall₂_map_left_iff, List.forall₂_map_right_iff]
    exact (h.parameters.splitOn (d := ',') rfl).imp fun _ _ => .strip

lemma sized?_eq (base t : Text) : sized? base t = (Text.after? base t).map fun r =>
    if r.head? ∈ ['2', '3', '4'].map some then (base ++ r.take 1, r.drop 1) else (base, r) := by
  rw [sized?]
  congr 1
  funext r
  split <;> simp_all [List.head?_eq_some_iff]

lemma sized?_respaced {base : Text} (h : Text.Respaced a b)
    (hbase : ∀ c ∈ base, isBlank c = false) :
    Text.Respaced.Read (sized? base a) (sized? base b) := by
  rw [sized?_eq, sized?_eq]
  refine rel_map (h.after? hbase) fun r s hrs => ?_
  have plain {t : Text} (ht : ∀ c ∈ t.head?, isBlank c) : t.head? ∉ ['2', '3', '4'].map some := by
    intro hmem
    obtain ⟨c, hc, he⟩ := List.mem_map.mp hmem
    have digits : ∀ c ∈ ['2', '3', '4'], isBlank c = false := by decide
    have hblank := ht c he.symm
    rw [digits c hc] at hblank
    contradiction
  rcases hrs.head with ⟨c, r', s', -, rfl, rfl, hrest⟩ | ⟨hr, hs⟩
  · by_cases hwidth : some c ∈ ['2', '3', '4'].map some
    · simp only [List.head?_cons, hwidth, if_true]
      exact ⟨rfl, hrest⟩
    · simp only [List.head?_cons, hwidth, if_false]
      exact ⟨trivial, hrs⟩
  · rw [if_neg (plain hr), if_neg (plain hs)]
    exact ⟨rfl, hrs⟩

lemma returnType?_respaced (h : Text.Respaced a b) :
    Text.Respaced.Read (returnType? a) (returnType? b) :=
  rel_or (rel_map (h.after? (by decide)) fun _ _ h => ⟨rfl, h⟩) <|
    rel_or (sized?_respaced h (by decide)) <|
    rel_or (sized?_respaced h (by decide)) (rel_map (h.after? (by decide)) fun _ _ h => ⟨rfl, h⟩)

lemma at?_respaced (h : Text.Respaced a b) : Option.Rel Respaced (at? a) (at? b) := by
  have words {t : Text} (f : Text × Text → Option Signature) :
      (blanks? t).bind (fun r => (word? r).bind f) = ((blanks? t).bind (Text.run? isWord)).bind f :=
    (Option.bind_assoc ..).symm
  simp only [at?, Option.bind_eq_bind]
  refine rel_bind (returnType?_respaced h) fun (ty, r) (_, s) ⟨hty, hrs⟩ => ?_
  obtain rfl : ty = _ := hty
  rw [words, words]
  refine rel_bind (hrs.blanks_run? fun _ => isWord_of_isBlank)
    fun (name, r) (_, s) ⟨hname, hrs⟩ => ?_
  obtain rfl : name = _ := hname
  refine rel_bind (hrs.skipBlanks.after? (by decide)) fun r s hrs => ?_
  refine rel_bind (hrs.upTo? (by decide)) fun (params, r) (others, s) ⟨hparams, _⟩ => ?_
  exact .some ⟨rfl, rfl, hparams.strip⟩

/-- No function head begins with a blank. -/
lemma at?_of_blank {c : Char} (hc : isBlank c) (t : Text) : at? (c :: t) = none := by
  have fails {lead : Text} (hne : lead ≠ []) (hl : ∀ c ∈ lead, isBlank c = false) :
      Text.after? lead (c :: t) = none :=
    after?_of_blank hne hl (by simpa using hc)
  have htype : returnType? (c :: t) = none := by
    rw [returnType?, sized?, sized?, fails, fails, fails, fails] <;> first | rfl | decide
  rw [at?, htype]
  rfl

lemma searchFrom_cons (inWord : Bool) (c : Char) (t : Text) :
    searchFrom inWord (c :: t) =
      (if inWord then none else at? (c :: t)).or (searchFrom (isWord c) t) := by
  rw [searchFrom]
  split
  · rename_i hs
    rw [hs]
    rfl
  · rename_i hn
    rw [hn]
    rfl

lemma searchFrom_of_blank {c : Char} (hc : isBlank c) (inWord : Bool) (t : Text) :
    searchFrom inWord (c :: t) = searchFrom false t := by
  rw [searchFrom_cons, at?_of_blank hc, ite_self, isWord_of_isBlank hc, Option.none_or]

lemma searchFrom_blanks {m : Text} (hm : allBlank m) (t : Text) :
    searchFrom false (m ++ t) = searchFrom false t := by
  induction m with
  | nil => rfl
  | cons c m ih =>
    obtain ⟨hc, hm⟩ := allBlank_cons.mp hm
    rw [List.cons_append, searchFrom_of_blank hc, ih hm]

lemma searchFrom_gap {c : Char} {m : Text} (hm : allBlank (c :: m)) (inWord : Bool) (t : Text) :
    searchFrom inWord (c :: m ++ t) = searchFrom false t := by
  obtain ⟨hc, hm⟩ := allBlank_cons.mp hm
  rw [List.cons_append, searchFrom_of_blank hc, searchFrom_blanks hm]

lemma searchFrom_respaced (h : Text.Respaced a b) (inWord : Bool) :
    Option.Rel Respaced (searchFrom inWord a) (searchFrom inWord b) := by
  have none {inWord : Bool} {m : Text} (hm : allBlank m) : searchFrom inWord m = none := by
    cases m with
    | nil => rfl
    | cons c m => simpa [searchFrom] using searchFrom_gap hm inWord []
  induction h generalizing inWord with
  | tail hm hn =>
    rw [none hm, none hn]
    exact .none
  | @char c r s hc h ih =>
    rw [searchFrom_cons, searchFrom_cons]
    refine rel_or ?_ (ih (isWord c))
    split_ifs
    · exact .none
    · exact at?_respaced (.char hc h)
  | gap hm hn _ ih =>
    rw [searchFrom_gap hm, searchFrom_gap hn]
    exact ih false

lemma find?_skipBlanks (code : Text) : find? (skipBlanks code) = find? code := by
  conv_rhs => rw [find?, ← List.takeWhile_append_dropWhile (p := isBlank) (l := code)]
  exact (searchFrom_blanks List.all_takeWhile _).symm

lemma find?_dedent (code : Text) : Option.Rel Respaced (find? code) (find? (dedent code)) := by
  rw [← find?_skipBlanks code, ← find?_skipBlanks (dedent code)]
  exact searchFrom_respaced (respaced_dedent code) false

end Signature

lemma isDeclarationLine_padded {l k : Text} (h : Padded l k) :
    isDeclarationLine l = isDeclarationLine k := by
  rw [isDeclarationLine, isDeclarationLine, h.strip_eq]

lemma all_isDeclarationLine_dedent (code : Text) :
    (codeLines code).all isDeclarationLine = (code.splitOn '\n').all isDeclarationLine := by
  have hpadded : (code.splitOn '\n').map isDeclarationLine =
      (dedentLines (code.splitOn '\n')).map isDeclarationLine := by
    rw [← List.forall₂_eq_eq_eq, List.forall₂_map_left_iff, List.forall₂_map_right_iff]
    exact (padded_dedentLines _).imp fun _ _ => isDeclarationLine_padded
  have within {ls ks : List Text} (h : ∀ l ∈ ls, l ≠ [] → l ∈ ks) (hks : ks.all isDeclarationLine) :
      ls.all isDeclarationLine := by
    refine List.all_eq_true.mpr fun l hl => ?_
    by_cases hne : l = []
    · rw [hne]
      rfl
    · exact List.all_eq_true.mp hks l (h l hl hne)
  have hdedented : (codeLines code).all isDeclarationLine =
      (dedentLines (code.splitOn '\n')).all isDeclarationLine := by
    rw [Bool.eq_iff_iff]
    exact ⟨within fun _ hl hne => (mem_codeLines_iff hne).mpr hl,
      within fun _ hl hne => (mem_codeLines_iff hne).mp hl⟩
  have hall := congrArg (List.all · id) hpadded
  simp only [List.all_map, Function.id_comp] at hall
  exact hdedented.trans hall.symm

lemma isDeclarationOnly_dedent (code : Text) :
    isDeclarationOnly (dedent code) = isDeclarationOnly code := by
  have hbrace : '\x7b' ∈ dedent code ↔ '\x7b' ∈ code := by
    rw [← mem_skipBlanks rfl, ← (respaced_dedent code).mem_iff rfl, mem_skipBlanks rfl]
  have hlines := all_isDeclarationLine_dedent code
  rw [codeLines] at hlines
  simp only [isDeclarationOnly, List.contains_eq_mem, hbrace, hlines]

end MarkedShader
