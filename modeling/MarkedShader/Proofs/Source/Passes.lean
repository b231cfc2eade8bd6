import MarkedShader.Proofs.Source.Pass

/-! The passes of a document are read back one after the other, and nothing stands outside them. -/
namespace MarkedShader

/-- A pass that is read back under some properties: one that only names a pass of another shader, or
one with a program. -/
inductive Pass.Written (ps : List Property) (p : Pass) : Prop
  | reference (use : p.isUsePass = true)
      (path : Plain ({} : Settings).tagPrefix p.usePassPath ∧ p.usePassPath ≠ [])
  | program (own : p.isUsePass = false) (legible : p.Legible ps)

namespace Source
open Text

lemma stretch_written {p : Pass} {ps : List Property} (hps : ∀ q ∈ ps, IsName q.name)
    (h : p.Written ps) (filled : Bool) :
    ∃ above body, (Writing.pass {} .standard ps p).lines ({} : Settings).indent 2 filled =
      above ++ body ∧
      Stretch above body p.rewritten := by
  cases h with
  | reference use path =>
    rw [Writing.pass, if_pos use, Pass.rewritten, if_pos use]
    exact stretch_usePass path.1 path.2 filled
  | program own legible => exact stretch_pass legible hps own filled

/-- Lines that passes are read from, one after the other. -/
inductive Stretches : List Text → List Pass → Prop
  | nil : Stretches [] []
  | cons {above body rest : List Text} {q : Pass} {qs : List Pass} :
    Stretch above body q → Stretches rest qs → Stretches (above ++ body ++ rest) (q :: qs)

/-- No pass begins at a line that says nothing outside the passes. -/
theorem extentsFrom_outside {ls : List Text} (h : ∀ l ∈ ls, Outside l) (i : Nat)
    (rest : List Text) : extentsFrom i (ls ++ rest) = extentsFrom (i + ls.length) rest := by
  induction ls generalizing i with
  | nil => rfl
  | cons l ls ih =>
    have hl := h l List.mem_cons_self
    rw [List.cons_append, extentsFrom, hl.noUsePass]
    simp only [hl.noPass, Bool.false_eq_true, if_false]
    rw [ih (fun l hl => h l (List.mem_cons_of_mem _ hl)), List.length_cons]
    congr 1
    omega

lemma Outside.step {l : Text} (h : Outside l) (i : Nat) (p : Parts) (rest : List Text) :
    Parts.step {} i p l rest = (p, 0) := by
  rw [Parts.step, Parts.take?, h.noLabel]
  simp only [h.noStart]
  rw [h.noStruct]
  rfl

lemma walk_outside {ls : List Text} (h : ∀ l ∈ ls, Outside l) (i : Nat) (p : Parts) :
    walk (Parts.step {}) i p ls = p := by
  induction ls generalizing i with
  | nil => rw [walk]
  | cons l ls ih =>
    rw [walk, (h l List.mem_cons_self).step]
    exact ih (fun l hl => h l (List.mem_cons_of_mem _ hl)) _

/-- Between the passes there is nothing that belongs into one. -/
def ClearGaps (ls : List Text) (gaps : List (Nat × Nat)) : Prop :=
  ∀ g ∈ gaps, ∀ l ∈ between ls g.1 g.2, Outside l

lemma foldl_clearGaps {ls : List Text} {gaps : List (Nat × Nat)}
    (h : ClearGaps ls gaps) (p : Parts) :
    gaps.foldl (fun p (first, last) => walk (Parts.step {}) first p (between ls first last)) p =
      p := by
  induction gaps generalizing p with
  | nil => rfl
  | cons g gaps ih =>
    obtain ⟨first, last⟩ := g
    have hfirst : walk (Parts.step {}) first p (between ls first last) = p :=
      walk_outside (h _ List.mem_cons_self) first p
    simp only [List.foldl_cons, hfirst]
    exact ih (fun g hg => h g (List.mem_cons_of_mem _ hg)) p

/-- What is read from some lines on: where the passes lie, what they are, and nothing besides. -/
structure PassesFrom (ls : List Text) (first cursor : Nat) (qs : List Pass)
    (es : List Extent) : Prop where
  found : extentsFrom first (ls.drop first) = (es, [])
  read : ∃ ps, readPasses {} .standard ls cursor es = (ps, []) ∧ ps.map Pass.detached = qs
  gaps : ClearGaps ls (gapsFrom cursor ls.length es)

/-- The lines from a cursor up to the end of some lines are what is left of those. -/
lemma clearGaps_upTo {front rest : List Text} {cursor : Nat}
    (h : ∀ l ∈ front.drop cursor, Outside l) :
    ClearGaps (front ++ rest) (gapUpTo cursor front.length) := by
  intro g hg
  obtain ⟨hlt, rfl⟩ := mem_gapUpTo.mp hg
  rw [between, Nat.sub_add_cancel (Nat.one_le_of_lt hlt), List.take_left]
  exact h

lemma Stretches.passesFrom {ls after : List Text} {qs : List Pass}
    (h : Stretches ls qs) (hafter : ∀ l ∈ after, Outside l) {before : List Text} {cursor : Nat}
    (hcursor : cursor ≤ before.length) (hbefore : ∀ l ∈ before.drop cursor, Outside l) :
    ∃ es, PassesFrom (before ++ ls ++ after) before.length cursor qs es := by
  induction h generalizing before cursor with
  | nil =>
    refine ⟨[], ?_, ⟨[], rfl, rfl⟩, ?_⟩
    · rw [List.append_nil, List.drop_left, ← List.append_nil after,
        extentsFrom_outside hafter, extentsFrom]
    · have hgap : ClearGaps (before ++ after ++ []) (gapUpTo cursor (before ++ after).length) := by
        refine clearGaps_upTo ?_
        rw [List.drop_append_of_le_length hcursor]
        exact List.forall_mem_append.mpr ⟨hbefore, hafter⟩
      rw [List.append_nil] at hgap
      rwa [List.append_nil, gapsFrom_nil]
  | @cons above body rest q qs hfirst hrest ih =>
    obtain ⟨path, hextents, hread⟩ := hfirst.read
    have hbody : 0 < body.length := List.length_pos_iff.mpr hfirst.nonempty
    have hend :
        before.length + above.length + (body.length-1) + 1 = (before ++ above ++ body).length := by
      simp only [List.length_append]
      omega
    have hlines : before ++ (above ++ body ++ rest) ++ after =
        before ++ above ++ body ++ (rest ++ after) := by
      simp only [List.append_assoc]
    have hsame :
        before ++ above ++ body ++ rest ++ after = before ++ above ++ body ++ (rest ++ after) := by
      simp only [List.append_assoc]
    have hnext :
        ∃ es, PassesFrom (before ++ above ++ body ++ rest ++ after) (before ++ above ++ body).length
        (before ++ above ++ body).length qs es := ih le_rfl (by simp)
    obtain ⟨es, hes⟩ := hnext
    rw [hsame] at hes
    obtain ⟨p, hp, hdetached⟩ := hread before (rest ++ after) cursor hcursor
    refine ⟨⟨before.length + above.length, before.length + above.length + (body.length-1), path⟩ ::
      es, ?_, ?_, ?_⟩
    · have hfound := hes.found
      rw [List.drop_left] at hfound
      rw [hlines, List.append_assoc, List.append_assoc, List.drop_left,
        extentsFrom_outside hfirst.outside, hextents, show before.length + above.length +
        body.length = (before ++ above ++ body).length by simp; omega, hfound]
    · obtain ⟨ps, hps, hall⟩ := hes.read
      refine ⟨p :: ps, ?_, ?_⟩
      · rw [hlines, readPasses, hp, hend, hps]
        rfl
      · rw [List.map_cons, hdetached, hall]
    · have hgap : ClearGaps (before ++ above ++ (body ++ (rest ++ after)))
          (gapUpTo cursor (before ++ above).length) := by
        refine clearGaps_upTo ?_
        rw [List.drop_append_of_le_length hcursor]
        exact List.forall_mem_append.mpr ⟨hbefore, hfirst.outside⟩
      rw [← List.append_assoc, List.length_append] at hgap
      rw [hlines, gapsFrom_cons (by simp only; omega), hend]
      exact List.forall_mem_append.mpr ⟨hgap, hes.gaps⟩

lemma stretches_passes {ps : List Property} {passes : List Pass} (hps : ∀ q ∈ ps, IsName q.name)
    (h : ∀ p ∈ passes, p.Written ps) (filled : Bool) :
    Stretches ((Layout.concat (passes.map (Writing.pass {} .standard ps))).lines
      ({} : Settings).indent 2 filled) (passes.map Pass.rewritten) := by
  induction passes generalizing filled with
  | nil => exact .nil
  | cons p passes ih =>
    have hrest := ih (fun p hp => h p (List.mem_cons_of_mem _ hp))
    obtain ⟨above, body, hlines, hstretch⟩ := stretch_written hps (h p List.mem_cons_self) filled
    rw [List.map_cons, List.map_cons, Layout.concat, Layout.lines_append, hlines]
    exact .cons hstretch (hrest _)

end Source
end MarkedShader
