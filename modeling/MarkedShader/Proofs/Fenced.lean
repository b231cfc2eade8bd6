import MarkedShader.Generated
import MarkedShader.Proofs.Text.Lines
import MarkedShader.Proofs.Text.Search

/-! Code is taken out of the first fenced part of a response, whatever stands before and after it.
Backticks that touch a fence do not move it: no tag begins with a backtick, and the line break
before the closing fence ends a run of them. Main statement: `code_fenced`. -/
namespace MarkedShader.Generated
open Text

variable {pre tag body inner post t : Text}

lemma head?_drop_fence : ∀ n < fence.length, (fence.drop n).head? = some '`' := by decide

/-- The part that an opening fence begins ends at the first fence after it. -/
lemma fenced?_append (tagged : ∀ c ∈ tag, isTagCharacter c)
    (first : ∀ a b, body = a ++ b → b ≠ [] → ¬ fence <+: b ++ (fence ++ post)) :
    fenced? (fence ++ (tag ++ '\n' :: (body ++ (fence ++ post)))) = some body := by
  have htag : (tag ++ '\n' :: (body ++ (fence ++ post))).dropWhile isTagCharacter =
      '\n' :: (body ++ (fence ++ post)) := by
    rw [List.dropWhile_append_of_pos tagged]
    exact dropWhile_of_stop fun c hc => Option.some.inj hc ▸ rfl
  have hbreak :
      after? ['\n'] ('\n' :: (body ++ (fence ++ post))) = some (body ++ (fence ++ post)) :=
    after?_append ['\n'] _
  have hclosing : search (after? fence) (body ++ (fence ++ post)) = some post := by
    rw [search_append fun a b hab hb => after?_eq_none_iff.mpr (first a b hab hb)]
    exact search_of_reads (after?_append fence post)
  have hlength : (body ++ (fence ++ post)).length - post.length - fence.length = body.length := by
    simp only [List.length_append]
    omega
  simp only [fenced?, after?_append, Option.bind_eq_bind, Option.bind_some, htag]
  rw [List.dropWhile_cons_of_neg (by decide), hbreak, Option.bind_some, hclosing, Option.bind_some,
    hlength, List.take_left]

/-- No opening fence begins in a text without fences that stands before one: of the fence behind it
a backtick would be left, where the tag and the line break should be. -/
lemma fenced?_before (none_inside : ¬ fence <:+: t) (hne : t ≠ []) (r : Text) :
    fenced? (t ++ (fence ++ r)) = none := by
  cases hstart : after? fence (t ++ (fence ++ r)) with
  | none => rw [fenced?, hstart]; rfl
  | some s =>
    rcases List.append_eq_append_iff.mp (after?_eq_some_iff.mp hstart) with ⟨u, hu, hr⟩ | ⟨u, ht, -⟩
    · have hshort : u.length < fence.length := by
        have := congrArg List.length hu
        have := List.length_pos_of_ne_nil hne
        simp only [List.length_append] at *
        omega
      have hs : s = fence.drop u.length ++ r := by
        have hdrop := congrArg (List.drop u.length) hr
        rw [List.drop_append_of_le_length hshort.le, List.drop_left] at hdrop
        exact hdrop.symm
      obtain ⟨rest, hrest⟩ := List.head?_eq_some_iff.mp (head?_drop_fence _ hshort)
      rw [fenced?, hstart, hs, hrest]
      rfl
    · exact absurd ⟨[], u, by rw [ht, List.nil_append]⟩ none_inside

lemma search_fenced?_eq_none (without : ¬ fence <:+: t) : search fenced? t = none := by
  refine search_eq_none_iff.mpr fun s hs => ?_
  have hstart : after? fence s = none :=
    after?_eq_none_iff.mpr fun h => without (h.isInfix.trans hs.isInfix)
  rw [fenced?, hstart]
  rfl

/-- The line break before the closing fence keeps the code from it. -/
lemma not_prefix_of_line (without : ¬ fence <:+: inner) (post : Text) {a b : Text}
    (split : inner ++ ['\n'] = a ++ b) (hb : b ≠ []) : ¬ fence <+: b ++ (fence ++ post) := by
  intro h
  obtain ⟨b, rfl⟩ : ∃ u, b = u ++ ['\n'] := by
    have hlast := congrArg List.getLast? split
    rw [List.getLast?_concat, List.getLast?_append_of_ne_nil _ hb] at hlast
    exact List.getLast?_eq_some_iff.mp hlast.symm
  rw [← List.append_assoc] at split
  rw [List.append_assoc] at h
  have hlead : fence <+: b := prefix_of_prefix_append_cons (c := '\n') (by decide) h
  exact without (hlead.isInfix.trans
    ⟨a, [], by rw [List.append_nil, (List.append_inj' split rfl).1]⟩)

lemma trimBoth_line (inner : Text) :
    trimBoth (· == '\n') (inner ++ ['\n']) = trimBoth (· == '\n') inner := by
  have hline : ∀ c ∈ ['\n'], (c == '\n') = true := by decide
  rw [trimBoth, trimBoth, List.dropWhile_append]
  split_ifs with h
  · rw [List.isEmpty_iff.mp h]
    rfl
  · exact trimEnd_append hline _

/-- The code of a response is its first fenced part, without the line breaks at the ends, whatever
follows that part. A response without fences is code as a whole, but for the blanks around it. -/
theorem code_fenced (outside : ¬ fence <:+: pre) (inside : ¬ fence <:+: inner)
    (tagged : ∀ c ∈ tag, isTagCharacter c) (post : Text) :
    code (pre ++ (fence ++ (tag ++ '\n' :: (inner ++ '\n' :: (fence ++ post))))) =
      trimBoth (· == '\n') inner ∧
      ∀ response, ¬ fence <:+: response → code response = strip response := by
  refine ⟨?_, fun response without => ?_⟩
  · have hbody : inner ++ '\n' :: (fence ++ post) = (inner ++ ['\n']) ++ (fence ++ post) := by simp
    have hopens := fenced?_append tagged fun a b split hb => not_prefix_of_line inside post split hb
    have hbefore : ∀ a b, pre = a ++ b → b ≠ [] →
        fenced? (b ++ (fence ++ (tag ++ '\n' :: ((inner ++ ['\n']) ++ (fence ++ post))))) =
          none := by
      intro a b hab hb
      exact fenced?_before (fun h => outside (h.trans ⟨a, [], by rw [List.append_nil, hab]⟩)) hb _
    rw [hbody, code, search_append hbefore, search_of_reads hopens]
    exact trimBoth_line inner
  · rw [code, search_fenced?_eq_none without]

/-- Backticks at all four ends, and a second fenced part. -/
theorem code_fenced_backticks :
    let pre := "As `a`:``".toList
    let tag := "c++".toList
    let inner := "\n``a` *= 2``".toList
    let post := "`\n```\nb\n```".toList
    (¬ fence <:+: pre ∧ ¬ fence <:+: inner ∧ ∀ c ∈ tag, isTagCharacter c) ∧
      code (pre ++ (fence ++ (tag ++ '\n' :: (inner ++ '\n' :: (fence ++ post))))) =
        "``a` *= 2``".toList ∧
      code pre = pre := by
  intro pre tag inner post
  have outside : ¬ fence <:+: pre := by decide
  have inside : ¬ fence <:+: inner := by decide
  have tagged : ∀ c ∈ tag, isTagCharacter c := by decide
  have hcode := code_fenced outside inside tagged post
  exact ⟨⟨outside, inside, tagged⟩, hcode.1.trans (by decide),
    (hcode.2 pre outside).trans (by decide)⟩

end MarkedShader.Generated
