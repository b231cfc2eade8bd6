import MarkedShader.Proofs.Text.Dedent
import MarkedShader.Proofs.Text.Search
import Mathlib.Data.List.Forall2

/-! Texts with the same characters and their blanks in the same places, but not the same blanks.
Readers that pass over blanks answer the same on both, and code is such a text of its dedented
form. -/
namespace MarkedShader.Text

/-- Between two characters that are not blank both texts have blanks, or neither has; at the end
anything goes. -/
inductive Respaced : Text → Text → Prop
  | tail {m n : Text} (hm : allBlank m) (hn : allBlank n) : Respaced m n
  | char {c : Char} {a b : Text} (hc : isBlank c = false) (h : Respaced a b) :
      Respaced (c :: a) (c :: b)
  | gap {c d : Char} {m n a b : Text} (hm : allBlank (c :: m)) (hn : allBlank (d :: n))
      (h : Respaced a b) : Respaced (c :: m ++ a) (d :: n ++ b)

lemma allBlank_cons {c : Char} {t : Text} : allBlank (c :: t) ↔ isBlank c ∧ allBlank t := by
  simp [allBlank]

lemma skipBlanks_of_allBlank {m : Text} (hm : allBlank m) : skipBlanks m = [] :=
  List.dropWhile_eq_nil_iff.mpr (List.all_eq_true.mp hm)

lemma skipBlanks_append_of_allBlank {m : Text} (hm : allBlank m) (t : Text) :
    skipBlanks (m ++ t) = skipBlanks t :=
  skipBlanks_append (List.all_eq_true.mp hm) t

lemma not_mem_of_allBlank {m : Text} (hm : allBlank m) {c : Char} (hc : isBlank c = false) :
    c ∉ m := fun hmem => by
  simp [List.all_eq_true.mp hm c hmem] at hc

lemma mem_skipBlanks {c : Char} {t : Text} (hc : isBlank c = false) : c ∈ skipBlanks t ↔ c ∈ t :=
  ⟨fun h => (List.dropWhile_sublist _).subset h, fun h => mem_dropWhile h hc⟩

/-- What begins with a blank does not begin with anything else. -/
theorem after?_of_blank {lead t : Text} (hne : lead ≠ []) (hl : ∀ c ∈ lead, isBlank c = false)
    (ht : ∀ c ∈ t.head?, isBlank c) : after? lead t = none := by
  refine after?_eq_none_iff.mpr fun hp => ?_
  obtain ⟨c, lead, rfl⟩ := List.exists_cons_of_ne_nil hne
  have hc := ht c (head?_of_isPrefix hp c rfl)
  rw [hl c List.mem_cons_self] at hc
  contradiction

section
variable {α β γ δ : Type} {R : α → β → Prop} {S : γ → δ → Prop} {x x' : Option α} {y y' : Option β}

lemma rel_map {f : α → γ} {g : β → δ} (h : Option.Rel R x y) (hfg : ∀ a b, R a b → S (f a) (g b)) :
    Option.Rel S (x.map f) (y.map g) := by
  cases h with
  | none => exact .none
  | some h => exact .some (hfg _ _ h)

lemma rel_bind {f : α → Option γ} {g : β → Option δ} (h : Option.Rel R x y)
    (hfg : ∀ a b, R a b → Option.Rel S (f a) (g b)) : Option.Rel S (x.bind f) (y.bind g) := by
  cases h with
  | none => exact .none
  | some h => exact hfg _ _ h

lemma bind_eq_of_rel {f : α → Option γ} {g : β → Option γ} (h : Option.Rel R x y)
    (hfg : ∀ a b, R a b → f a = g b) : x.bind f = y.bind g := by
  cases h with
  | none => rfl
  | some h => exact hfg _ _ h

lemma rel_or (h : Option.Rel R x y) (h' : Option.Rel R x' y') :
    Option.Rel R (x.or x') (y.or y') := by
  cases h with
  | none => exact h'
  | some h => exact .some h

end

lemma exists_trimEnd {p : Char → Bool} (hp : ∀ c, p c → isBlank c) (t : Text) :
    ∃ e, allBlank e ∧ t = trimEnd p t ++ e :=
  ⟨t.rtakeWhile p, List.all_eq_true.mpr fun c hc => hp c (List.mem_rtakeWhile_imp hc),
    List.rdropWhile_append_rtakeWhile.symm⟩

namespace Respaced

variable {a b : Text} {c : Char}

lemma symm (h : Respaced a b) : Respaced b a := by
  induction h with
  | tail hm hn => exact tail hn hm
  | char hc _ ih => exact char hc ih
  | gap hm hn _ ih => exact gap hn hm ih

lemma append_left (t : Text) (h : Respaced a b) : Respaced (t ++ a) (t ++ b) := by
  induction t with
  | nil => exact h
  | cons c t ih =>
    cases hc : isBlank c with
    | false => exact char hc ih
    | true => exact gap (m := []) (n := []) (by simp [allBlank, hc]) (by simp [allBlank, hc]) ih

lemma refl (t : Text) : Respaced t t := by
  have h := append_left t (tail (m := []) (n := []) rfl rfl)
  rwa [List.append_nil] at h

lemma allBlank_eq (h : Respaced a b) : allBlank a = allBlank b := by
  induction h with
  | tail hm hn => rw [hm, hn]
  | char hc _ _ => simp [allBlank, hc]
  | gap hm hn _ ih => rw [allBlank_append, allBlank_append, hm, hn, ih]

lemma runs {m n : Text} (hm : allBlank m) (hn : allBlank n) (mne : m ≠ []) (nne : n ≠ [])
    (h : Respaced a b) : Respaced (m ++ a) (n ++ b) := by
  obtain ⟨c, m, rfl⟩ := List.exists_cons_of_ne_nil mne
  obtain ⟨d, n, rfl⟩ := List.exists_cons_of_ne_nil nne
  exact gap hm hn h

/-- Both texts begin with the same character that is not blank, or neither begins with such a
one. -/
theorem head (h : Respaced a b) :
    (∃ c r s, isBlank c = false ∧ a = c :: r ∧ b = c :: s ∧ Respaced r s) ∨
      (∀ c ∈ a.head?, isBlank c) ∧ ∀ c ∈ b.head?, isBlank c := by
  cases h with
  | tail hm hn =>
    exact .inr ⟨fun c hc => List.all_eq_true.mp hm c (List.mem_of_mem_head? hc),
      fun c hc => List.all_eq_true.mp hn c (List.mem_of_mem_head? hc)⟩
  | @char c r s hc h => exact .inl ⟨c, r, s, hc, rfl, rfl, h⟩
  | gap hm hn _ =>
    refine .inr ⟨fun c hc => ?_, fun c hc => ?_⟩
    · exact Option.some.inj hc ▸ (allBlank_cons.mp hm).1
    · exact Option.some.inj hc ▸ (allBlank_cons.mp hn).1

lemma mem_iff (h : Respaced a b) (hc : isBlank c = false) : c ∈ a ↔ c ∈ b := by
  induction h with
  | tail hm hn => exact iff_of_false (not_mem_of_allBlank hm hc) (not_mem_of_allBlank hn hc)
  | char _ _ ih => exact List.mem_cons.trans ((or_congr_right ih).trans List.mem_cons.symm)
  | gap hm hn _ ih =>
    rw [List.mem_append, List.mem_append, or_iff_right (not_mem_of_allBlank hm hc),
      or_iff_right (not_mem_of_allBlank hn hc)]
    exact ih

lemma skipBlanks (h : Respaced a b) : Respaced (skipBlanks a) (skipBlanks b) := by
  induction h with
  | tail hm hn =>
    rw [skipBlanks_of_allBlank hm, skipBlanks_of_allBlank hn]
    exact refl []
  | char hc h _ =>
    rw [skipBlanks_of_stop (by simpa using hc), skipBlanks_of_stop (by simpa using hc)]
    exact char hc h
  | gap hm hn _ ih => rwa [skipBlanks_append_of_allBlank hm, skipBlanks_append_of_allBlank hn]

/-- Blanks at the end can be left out. -/
lemma of_append_right {e : Text} (h : Respaced a (b ++ e)) (he : allBlank e) : Respaced a b := by
  generalize ht : b ++ e = t at h
  induction h generalizing b with
  | tail hm hn =>
    rw [← ht, allBlank_append, Bool.and_eq_true] at hn
    exact tail hm hn.1
  | @char c r s hc h ih =>
    cases b with
    | nil =>
      rw [List.nil_append] at ht
      rw [ht, allBlank_cons, hc] at he
      exact absurd he.1 (by decide)
    | cons d b =>
      obtain ⟨rfl, hs⟩ := List.cons.inj ht
      exact char hc (ih hs)
  | @gap c d m n r s hm hn h ih =>
    rcases List.append_eq_append_iff.mp ht with ⟨u, hsplit, hrest⟩ | ⟨u, rfl, hs⟩
    · -- the end begins within the run of blanks, so that nothing but blanks follows
      rw [hrest, allBlank_append, Bool.and_eq_true] at he
      rw [hsplit, allBlank_append, Bool.and_eq_true] at hn
      refine tail ?_ hn.1
      rw [allBlank_append, hm, h.allBlank_eq, he.2]
      rfl
    · exact gap hm hn (ih hs.symm)

lemma stripEnd_right (h : Respaced a b) : Respaced a (stripEnd b) := by
  obtain ⟨e, he, hb⟩ := exists_trimEnd (fun _ => id) b
  rw [hb] at h
  exact h.of_append_right he

lemma strip (h : Respaced a b) : Respaced (strip a) (strip b) :=
  h.skipBlanks.stripEnd_right.symm.stripEnd_right.symm

variable {α : Type}

/-- The same answer with respaced texts left after it. -/
abbrev Read (x y : Option (α × Text)) : Prop :=
  Option.Rel (fun u v => u.1 = v.1 ∧ Respaced u.2 v.2) x y

lemma after? {lead : Text} (h : Respaced a b) (hl : ∀ c ∈ lead, isBlank c = false) :
    Option.Rel Respaced (after? lead a) (after? lead b) := by
  induction lead generalizing a b with
  | nil => exact .some h
  | cons x lead ih =>
    rcases h.head with ⟨c, r, s, -, rfl, rfl, hrest⟩ | ⟨ha, hb⟩
    · change Option.Rel Respaced (if x == c then Text.after? lead r else none)
        (if x == c then Text.after? lead s else none)
      split_ifs
      · exact ih hrest fun c hc => hl c (List.mem_cons_of_mem x hc)
      · exact .none
    · rw [after?_of_blank (List.cons_ne_nil x lead) hl ha,
        after?_of_blank (List.cons_ne_nil x lead) hl hb]
      exact .none

/-- A run of characters that are not blank. -/
lemma run? {p : Char → Bool} (h : Respaced a b) (hp : ∀ c, isBlank c → p c = false) :
    Read (run? p a) (run? p b) := by
  have stays {t : Text} (ht : allBlank t) : ∀ c ∈ t.head?, p c = false := fun c hc =>
    hp c (List.all_eq_true.mp ht c (List.mem_of_mem_head? hc))
  have same : a.takeWhile p = b.takeWhile p ∧ Respaced (a.dropWhile p) (b.dropWhile p) := by
    induction h with
    | tail hm hn =>
      rw [takeWhile_of_stop (stays hm), takeWhile_of_stop (stays hn), dropWhile_of_stop (stays hm),
        dropWhile_of_stop (stays hn)]
      exact ⟨rfl, tail hm hn⟩
    | @char c r s hc h ih =>
      cases hpc : p c with
      | true => simpa [hpc] using ih
      | false => simpa [hpc] using char hc h
    | @gap c d m n r s hm hn h _ =>
      have hc := hp c (allBlank_cons.mp hm).1
      have hd := hp d (allBlank_cons.mp hn).1
      simpa [hc, hd] using gap hm hn h
  rw [Text.run?, Text.run?, same.1]
  split_ifs
  · exact .none
  · exact .some ⟨rfl, same.2⟩

/-- A text up to a character that is not blank. -/
theorem upTo? {d : Char} (h : Respaced a b) (hd : isBlank d = false) :
    Option.Rel (fun u v => Respaced u.1 v.1 ∧ Respaced u.2 v.2) (upTo? d a) (upTo? d b) := by
  have misses {m : Text} (hm : allBlank m) (t : Text) :
      Text.upTo? d (m ++ t) = (Text.upTo? d t).map fun u => (m ++ u.1, u.2) := by
    induction m with
    | nil => simp
    | cons c m ih =>
      obtain ⟨hc, hm⟩ := allBlank_cons.mp hm
      have hne : c ≠ d := fun e => by simp [← e, hc] at hd
      rw [List.cons_append, Text.upTo?, if_neg hne, ih hm, Option.map_map]
      rfl
  induction h with
  | tail hm hn =>
    have none {m : Text} (hm : allBlank m) : Text.upTo? d m = none := by
      simpa [Text.upTo?] using misses hm []
    rw [none hm, none hn]
    exact .none
  | char hc h ih =>
    rw [Text.upTo?, Text.upTo?]
    split_ifs
    · exact .some ⟨refl [], h⟩
    · exact rel_map ih fun _ _ h => ⟨char hc h.1, h.2⟩
  | gap hm hn _ ih =>
    rw [misses hm, misses hn]
    exact rel_map ih fun _ _ h => ⟨gap hm hn h.1, h.2⟩

/-- A run of such characters after one or more blanks. -/
theorem blanks_run? {p : Char → Bool} (h : Respaced a b) (hp : ∀ c, isBlank c → p c = false) :
    Read ((blanks? a).bind (Text.run? p)) ((blanks? b).bind (Text.run? p)) := by
  cases h with
  | tail hm hn =>
    have none {m : Text} (hm : allBlank m) : (blanks? m).bind (Text.run? p) = none := by
      cases m with
      | nil => rfl
      | cons c m =>
        obtain ⟨hc, hm⟩ := allBlank_cons.mp hm
        rw [blanks?, if_pos hc, skipBlanks_of_allBlank hm]
        rfl
    rw [none hm, none hn]
    exact .none
  | char hc _ =>
    rw [blanks?, blanks?, if_neg (by simp [hc]), if_neg (by simp [hc])]
    exact .none
  | gap hm hn h =>
    obtain ⟨hc, hm⟩ := allBlank_cons.mp hm
    obtain ⟨hd, hn⟩ := allBlank_cons.mp hn
    rw [List.cons_append, List.cons_append, blanks?, blanks?, if_pos hc, if_pos hd,
      skipBlanks_append_of_allBlank hm, skipBlanks_append_of_allBlank hn]
    exact h.skipBlanks.run? hp

lemma splitOn_append_of_not_mem {d : Char} {m : Text} (hm : d ∉ m) (t : Text) :
    (m ++ t).splitOn d = (t.splitOn d).modifyHead (m ++ ·) := by
  induction m with
  | nil =>
    rw [List.nil_append]
    exact (congrFun List.modifyHead_id (t.splitOn d)).symm
  | cons c m ih =>
    rw [List.mem_cons, not_or] at hm
    rw [List.cons_append, List.splitOn_cons_eq_if_modifyHead, if_neg (by simpa using Ne.symm hm.1),
      ih hm.2, List.modifyHead_modifyHead]
    rfl

/-- The pieces between the occurrences of a character that is not blank. -/
theorem splitOn {d : Char} (h : Respaced a b) (hd : isBlank d = false) :
    List.Forall₂ Respaced (a.splitOn d) (b.splitOn d) := by
  have first {f g : Text → Text} {as bs : List Text}
      (hfg : ∀ s t, Respaced s t → Respaced (f s) (g t)) (hs : List.Forall₂ Respaced as bs) :
      List.Forall₂ Respaced (as.modifyHead f) (bs.modifyHead g) := by
    cases hs with
    | nil => exact .nil
    | cons h hs => exact .cons (hfg _ _ h) hs
  induction h with
  | tail hm hn =>
    rw [List.splitOn_eq_singleton (not_mem_of_allBlank hm hd),
      List.splitOn_eq_singleton (not_mem_of_allBlank hn hd)]
    exact .cons (tail hm hn) .nil
  | char hc _ ih =>
    rw [List.splitOn_cons_eq_if_modifyHead, List.splitOn_cons_eq_if_modifyHead]
    split_ifs
    · exact .cons (refl []) ih
    · exact first (fun _ _ => char hc) ih
  | gap hm hn _ ih =>
    rw [splitOn_append_of_not_mem (not_mem_of_allBlank hm hd),
      splitOn_append_of_not_mem (not_mem_of_allBlank hn hd)]
    exact first (fun _ _ => gap hm hn) ih

lemma isPrefix {lead : Text} (h : Respaced a b) (hl : ∀ c ∈ lead, isBlank c = false)
    (hp : lead <+: a) : lead <+: b := by
  have hsame := h.after? hl
  obtain ⟨r, rfl⟩ := hp
  rw [after?_append] at hsame
  cases hb : Text.after? lead b with
  | none => rw [hb] at hsame; cases hsame
  | some s => exact ⟨s, (after?_eq_some_iff.mp hb).symm⟩

lemma startsWith_eq {lead : Text} (h : Respaced a b) (hl : ∀ c ∈ lead, isBlank c = false) :
    startsWith a lead = startsWith b lead := by
  rw [Bool.eq_iff_iff, startsWith, startsWith, List.isPrefixOf_iff_prefix,
    List.isPrefixOf_iff_prefix]
  exact ⟨h.isPrefix hl, h.symm.isPrefix hl⟩

lemma isInfix {part : Text} (h : Respaced a b) (hne : part ≠ [])
    (hp : ∀ c ∈ part, isBlank c = false) (hin : part <:+: a) : part <:+: b := by
  obtain ⟨x, part, rfl⟩ := List.exists_cons_of_ne_nil hne
  have hx := hp x List.mem_cons_self
  induction h with
  | tail hm _ => exact absurd (hin.subset List.mem_cons_self) (not_mem_of_allBlank hm hx)
  | char hc h ih =>
    rcases List.infix_cons_iff.mp hin with hin | hin
    · exact ((char hc h).isPrefix hp hin).isInfix
    · exact List.infix_cons (ih hin)
  | gap hm _ _ ih =>
    exact (ih (infix_of_head_not_mem (not_mem_of_allBlank hm hx) hin)).trans
      (List.suffix_append _ _).isInfix

lemma holds_eq {part : Text} (h : Respaced a b) (hne : part ≠ [])
    (hp : ∀ c ∈ part, isBlank c = false) : holds a part = holds b part := by
  rw [← Bool.not_inj_iff, Bool.eq_iff_iff, Bool.not_eq_true', Bool.not_eq_true', holds_eq_false_iff,
    holds_eq_false_iff]
  exact not_congr ⟨h.isInfix hne hp, h.symm.isInfix hne hp⟩

end Respaced

/-- A line with blanks around what another line has. -/
def Padded (l k : Text) : Prop := ∃ m e, allBlank m ∧ allBlank e ∧ l = m ++ (k ++ e)

lemma Padded.skipBlanks {l k : Text} (h : Padded l k) :
    ∃ e, allBlank e ∧ skipBlanks l = skipBlanks k ++ e := by
  obtain ⟨m, e, hm, he, rfl⟩ := h
  rw [skipBlanks_append_of_allBlank hm, Text.skipBlanks, List.dropWhile_append]
  split_ifs with hk
  · exact ⟨[],
      rfl, by rw [Text.skipBlanks, List.isEmpty_iff.mp hk]; exact skipBlanks_of_allBlank he⟩
  · exact ⟨e, he, rfl⟩

lemma Padded.strip_eq {l k : Text} (h : Padded l k) : strip l = strip k := by
  obtain ⟨e, he, hl⟩ := h.skipBlanks
  change trimEnd isBlank (Text.skipBlanks l) = trimEnd isBlank (Text.skipBlanks k)
  rw [hl, trimEnd_append (List.all_eq_true.mp he)]

lemma padded_trimBoth {p : Char → Bool} (hp : ∀ c, p c → isBlank c) (t : Text) :
    Padded t (trimBoth p t) := by
  obtain ⟨e, he, ht⟩ := exists_trimEnd hp (t.dropWhile p)
  refine ⟨t.takeWhile p, e,
    List.all_eq_true.mpr fun c hc => hp c (List.mem_takeWhile_imp hc), he, ?_⟩
  rw [trimBoth, ← ht, List.takeWhile_append_dropWhile]

/-- A dedented line differs from its line in the blanks around it only. -/
theorem padded_dedentLines (ls : List Text) : List.Forall₂ Padded ls (dedentLines ls) := by
  have ends := exists_trimEnd (p := (· == '\r')) fun c hc => beq_iff_eq.mp hc ▸ rfl
  have blank {l : Text} (hb : allBlank (trimEnd (· == '\r') l)) : Padded l [] := by
    obtain ⟨e, he, hl⟩ := ends l
    exact ⟨_, e, hb, he, hl⟩
  simp only [dedentLines]
  split
  · rename_i hnone
    rw [List.map_map, List.forall₂_map_right_iff, List.forall₂_same]
    intro l hl
    have hall := List.filter_eq_nil_iff.mp (List.map_eq_nil_iff.mp (List.min?_eq_none_iff.mp hnone))
    exact blank (by simpa using hall _ (List.mem_map_of_mem hl))
  · rename_i common _
    rw [List.map_map, List.forall₂_map_right_iff, List.forall₂_same]
    intro l _
    simp only [Function.comp_apply]
    split_ifs with hb
    · exact blank hb
    · obtain ⟨e, he, hl⟩ := ends l
      obtain ⟨m, hm, hcut⟩ := dropIndent_suffix common (trimEnd (· == '\r') l)
      refine ⟨m, e, hm.allBlank, he, ?_⟩
      rw [← List.append_assoc, ← hcut, ← hl]

/-- Joined lines and the same lines with blanks around them. -/
lemma Padded.joinLines {ls ks : List Text} (h : List.Forall₂ Padded ls ks) :
    ∃ m t, allBlank m ∧ joinLines ls = m ++ t ∧ Respaced t (joinLines ks) := by
  induction h with
  | nil => exact ⟨[], [], rfl, rfl, .refl []⟩
  | @cons l k ls ks hl hs ih =>
    obtain ⟨m, e, hm, he, rfl⟩ := hl
    cases hs with
    | nil =>
      refine ⟨m, k ++ e, hm, List.intercalate_singleton, ?_⟩
      have h := (Respaced.tail he (n := []) rfl).append_left k
      rw [List.append_nil] at h
      rwa [Text.joinLines, List.intercalate_singleton]
    | cons hl hs =>
      obtain ⟨n, t, hn, hrest, h⟩ := ih
      have hgap : allBlank (e ++ '\n' :: n) := by
        rw [allBlank_append, he, Bool.true_and]
        exact allBlank_cons.mpr ⟨rfl, hn⟩
      refine ⟨m, k ++ ((e ++ '\n' :: n) ++ t), hm, ?_, ?_⟩
      · rw [joinLines_cons_cons, hrest]
        simp
      · rw [joinLines_cons_cons]
        exact .append_left k (.runs (n := ['\n']) hgap rfl (by simp) (List.cons_ne_nil _ _) h)

/-- Dedenting changes nothing in code but its blanks. -/
theorem respaced_dedent (code : Text) : Respaced (skipBlanks code) (skipBlanks (dedent code)) := by
  obtain ⟨m, t, hm, hcode, h⟩ := Padded.joinLines (padded_dedentLines (code.splitOn '\n'))
  have hpadded := padded_trimBoth (p := (· == '\n')) (fun c hc => beq_iff_eq.mp hc ▸ rfl)
    (joinLines (dedentLines (code.splitOn '\n')))
  obtain ⟨e, he, htrim⟩ := hpadded.skipBlanks
  rw [joinLines_splitOn] at hcode
  have hskip : skipBlanks code = skipBlanks t := by rw [hcode, skipBlanks_append_of_allBlank hm]
  have h := h.skipBlanks
  rw [htrim] at h
  rw [hskip]
  exact h.of_append_right he

end MarkedShader.Text
