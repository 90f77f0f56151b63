import Mathlib.Data.List.Infix

/-!
# Replacing words in a text

A text is a list of cells and each cell shows a letter (`ch`).  Words are lists of
letters.  So a cell can carry more than its letter, for example where it came from,
and a replacement does not look at that.

`replaceAny words` walks a text from the left.  Where one of the words begins it
puts `new` and goes on behind the word.  With one word this is the usual
replacement of a substring.

*One after the other.*  Replacing one word after another is replacing them at once
(`replaceAny_cons`) when the occurrences in the text are apart (`Apart`) and no
later word meets what an earlier one was replaced by (`Meets`).  Then the order does
not matter (`replaceAny_congr`).

*What is left.*  `mem_replaceAny` says a cell that is left stood outside every
occurrence.  `infix_replaceAny` speaks of runs of cells that were not put in: they
are runs of the text, and none of them spells a word.
-/

namespace Replacement

variable {α β : Type*} [DecidableEq β] (ch : α → β) (new : List α)

/-- Replace what begins behind the next `skip` cells. -/
def replaceFrom (words : List (List β)) : Nat → List α → List α
  | _, [] => []
  | skip + 1, _ :: text => replaceFrom words skip text
  | 0, c :: text =>
      match words.find? (fun w => w <+: (c :: text).map ch) with
      | some w => new ++ replaceFrom words (w.length - 1) text
      | none => c :: replaceFrom words 0 text

/-- Replace every occurrence of one of the words, from the left. -/
def replaceAny (words : List (List β)) (text : List α) : List α :=
  replaceFrom ch new words 0 text

/-- Replace every occurrence of a word, from the left. -/
def replace (word : List β) (text : List α) : List α := replaceAny ch new [word] text

/-- No word begins here. -/
def Misses (words : List (List β)) (text : List α) : Prop :=
  ∀ w ∈ words, ¬ w <+: text.map ch

section Equations

variable {ch new} {words : List (List β)}

theorem replaceFrom_append (b rest : List α) :
    replaceFrom ch new words b.length (b ++ rest) = replaceFrom ch new words 0 rest := by
  induction b with
  | nil => rfl
  | cons c b ih => exact ih

@[simp] theorem replaceAny_nil : replaceAny ch new words [] = [] := rfl

theorem replaceAny_hit {w : List β} {b rest : List α} (hb : b.map ch = w) (hw : w ≠ [])
    (hfind : words.find? (fun w => w <+: (b ++ rest).map ch) = some w) :
    replaceAny ch new words (b ++ rest) = new ++ replaceAny ch new words rest := by
  cases b with
  | nil => exact absurd hb.symm hw
  | cons c b =>
      have hlen : w.length - 1 = b.length := by simp [← hb]
      unfold replaceAny
      rw [List.cons_append] at hfind ⊢
      rw [replaceFrom, hfind]
      show new ++ replaceFrom ch new words (w.length - 1) (b ++ rest) = _
      rw [hlen, replaceFrom_append]

theorem replaceAny_miss {c : α} {text : List α} (hmiss : Misses ch words (c :: text)) :
    replaceAny ch new words (c :: text) = c :: replaceAny ch new words text := by
  have hfind : words.find? (fun w => w <+: (c :: text).map ch) = none := by
    rw [List.find?_eq_none]
    intro w hw
    simpa using hmiss w hw
  unfold replaceAny
  rw [replaceFrom, hfind]

/-- A walk ends, hits a word, or moves on by one cell. -/
theorem replaceInduction (ch : α → β) {words : List (List β)} {motive : List α → Prop} (hne : ∀ w ∈ words, w ≠ [])
    (nil : motive [])
    (hit : ∀ w ∈ words, ∀ b rest, b.map ch = w →
      words.find? (fun w => w <+: (b ++ rest).map ch) = some w → motive rest →
      motive (b ++ rest))
    (miss : ∀ c text, Misses ch words (c :: text) → motive text → motive (c :: text))
    (text : List α) : motive text := by
  induction hn : text.length using Nat.strong_induction_on generalizing text with
  | _ n ih =>
      cases text with
      | nil => exact nil
      | cons c text =>
          cases hfind : words.find? (fun w => w <+: (c :: text).map ch) with
          | none =>
              refine miss c text (fun w hw => ?_) (ih _ (by simp [← hn]) text rfl)
              simpa using List.find?_eq_none.mp hfind w hw
          | some w =>
              have hw : w ∈ words := List.mem_of_find?_eq_some hfind
              have hpre : w <+: (c :: text).map ch := by simpa using List.find?_some hfind
              obtain ⟨tail, htail⟩ := hpre
              obtain ⟨b, rest, heq, hb, _⟩ := List.map_eq_append_iff.mp htail.symm
              have hpos : 0 < b.length := by
                rw [← List.length_map ch, hb]
                exact List.length_pos_iff.mpr (hne w hw)
              rw [heq] at hfind ⊢
              refine hit w hw b rest hb hfind (ih rest.length ?_ rest rfl)
              have := congrArg List.length heq
              rw [List.length_append] at this
              omega

/-- A text in which none of the words occurs stays as it is. -/
theorem replaceAny_of_misses {text : List α} (hmiss : ∀ w ∈ words, ¬ w <:+: text.map ch) :
    replaceAny ch new words text = text := by
  induction text with
  | nil => rfl
  | cons c text ih =>
      have hhead : Misses ch words (c :: text) := fun w hw hbegins => hmiss w hw hbegins.isInfix
      rw [replaceAny_miss hhead, ih]
      intro w hw hin
      exact hmiss w hw (hin.trans (List.suffix_cons _ _).isInfix)

/-- A replacement does not look at what the cells carry. -/
theorem map_replaceFrom {γ : Type*} (f : α → γ) {ch' : γ → β} (hch : ∀ c, ch' (f c) = ch c)
    (skip : Nat) (text : List α) :
    (replaceFrom ch new words skip text).map f =
      replaceFrom ch' (new.map f) words skip (text.map f) := by
  have hletters : ∀ t : List α, (t.map f).map ch' = t.map ch := fun t => by
    rw [List.map_map]
    exact List.map_congr_left fun c _ => hch c
  induction text generalizing skip with
  | nil => cases skip <;> rfl
  | cons c text ih =>
      cases skip with
      | succ skip => exact ih skip
      | zero =>
          have hsame := hletters (c :: text)
          rw [List.map_cons] at hsame
          rw [List.map_cons, replaceFrom, replaceFrom, hsame]
          cases words.find? fun w => w <+: (c :: text).map ch with
          | none => exact congrArg (f c :: ·) (ih 0)
          | some w =>
              show (new ++ _).map f = _
              rw [List.map_append, ih]

theorem map_replaceAny {γ : Type*} (f : α → γ) {ch' : γ → β} (hch : ∀ c, ch' (f c) = ch c)
    (text : List α) :
    (replaceAny ch new words text).map f = replaceAny ch' (new.map f) words (text.map f) :=
  map_replaceFrom f hch 0 text

end Equations

/-! ## Words that meet -/

/-- `w` begins inside `v`, as far as both go. -/
def Overlaps (v w : List β) : Prop := ∃ k < v.length, w <+: v.drop k ∨ v.drop k <+: w

/-- Some text has an occurrence of each that share a place. -/
def Meets (v w : List β) : Prop := Overlaps v w ∨ Overlaps w v

/-- A word that overlaps itself. -/
def Bordered (v : List β) : Prop := ∃ k < v.length, 0 < k ∧ v.drop k <+: v

/-- A word that is looked for after `m` has been put in: it cannot begin or end in
`m`, or is `m`. -/
def Tolerates (m v : List β) : Prop := v = m ∧ ¬ Bordered m ∨ ¬ Meets v m

/-- If `v` begins at `i` and `w` at `j`, no earlier and before the end of `v`, they are
the same occurrence. -/
def ApartAt (text v w : List β) (i j : Nat) : Prop :=
  v <+: text.drop i → w <+: text.drop j → i ≤ j → j < i + v.length → v = w ∧ i = j

/-- Two occurrences of the words in the text are one or share no place. -/
def Apart (words : List (List β)) (text : List β) : Prop :=
  ∀ v ∈ words, ∀ w ∈ words, ∀ i < text.length, ∀ j < text.length, ApartAt text v w i j

instance (v w : List β) : Decidable (Overlaps v w) :=
  inferInstanceAs (Decidable (∃ k, k < v.length ∧ _))

instance (v w : List β) : Decidable (Meets v w) := inferInstanceAs (Decidable (_ ∨ _))

instance (v : List β) : Decidable (Bordered v) :=
  inferInstanceAs (Decidable (∃ k, k < v.length ∧ _))

instance (m v : List β) : Decidable (Tolerates m v) := inferInstanceAs (Decidable (_ ∨ _))

instance (text v w : List β) (i j : Nat) : Decidable (ApartAt text v w i j) :=
  inferInstanceAs (Decidable (_ → _))

instance (words : List (List β)) (text : List β) : Decidable (Apart words text) :=
  inferInstanceAs (Decidable (∀ v ∈ words, ∀ w ∈ words, ∀ i < text.length, ∀ j < text.length,
    ApartAt text v w i j))

section Apart

omit [DecidableEq β]

variable {words : List (List β)} {text : List β}

theorem Apart.drop (h : Apart words text) (n : Nat) : Apart words (text.drop n) := by
  intro v hv w hw i hi j hj hvi hwj hij hlt
  rw [List.length_drop] at hi hj
  rw [List.drop_drop] at hvi hwj
  obtain ⟨heq, hplace⟩ := h v hv w hw (n + i) (by omega) (n + j) (by omega) hvi hwj
    (by omega) (by omega)
  exact ⟨heq, by omega⟩

theorem Apart.append {b rest : List β} (h : Apart words (b ++ rest)) : Apart words rest := by
  simpa using h.drop b.length

/-- Inside an occurrence no other one begins. -/
theorem Apart.inside (h : Apart words text) {v w : List β} (hv : v ∈ words) (hw : w ∈ words)
    (hhead : v <+: text) {j : Nat} (hlt : j < v.length)
    (hj : w <+: text.drop j) : v = w ∧ j = 0 := by
  have hlen : v.length ≤ text.length := hhead.length_le
  obtain ⟨heq, hplace⟩ := h v hv w hw 0 (by omega) j (by omega) (by simpa using hhead) hj
    (by omega) (by omega)
  exact ⟨heq, hplace.symm⟩

end Apart

/-! ## One word after the other -/

section Compose

variable {ch new} {v : List β} {words : List (List β)} {text : List α}

/-- Where none of the words begins, nothing is replaced. -/
theorem replaceAny_append (b rest : List α)
    (hmiss : ∀ j < b.length, Misses ch words ((b ++ rest).drop j)) :
    replaceAny ch new words (b ++ rest) = b ++ replaceAny ch new words rest := by
  induction b with
  | nil => rfl
  | cons c b ih =>
      have hhead : Misses ch words (c :: (b ++ rest)) := hmiss 0 (by simp)
      rw [List.cons_append, replaceAny_miss hhead, ih, List.cons_append]
      intro j hj
      exact hmiss (j + 1) (by simpa using hj)

/-- What was put in stays when a word is replaced that tolerates it. -/
theorem replace_new (hv : v ≠ []) (htol : Tolerates (new.map ch) v) (rest : List α) :
    replace ch new v (new ++ rest) = new ++ replace ch new v rest := by
  cases htol with
  | inl hsame =>
      refine replaceAny_hit hsame.1.symm hv ?_
      simp [hsame.1]
  | inr hmeets =>
      refine replaceAny_append new rest fun j hj w hw hbegins => ?_
      rw [List.mem_singleton] at hw
      subst hw
      rw [List.drop_append_of_le_length (by omega), List.map_append, List.map_drop] at hbegins
      have hover : Overlaps (new.map ch) w := by
        refine ⟨j, by simpa using hj, ?_⟩
        exact List.prefix_or_prefix_of_prefix hbegins (List.prefix_append _ _)
      exact hmeets (.inr hover)

/-- A word begins a text in which others were replaced only if it began the text, or
it ends in what was put in. -/
theorem begins_replaceAny (hne : ∀ w ∈ words, w ≠ [])
    (h : v <+: (replaceAny ch new words text).map ch) :
    v <+: text.map ch ∨ ∃ d < v.length, (∃ w ∈ words, w <+: (text.map ch).drop d) ∧
      (new.map ch <+: v.drop d ∨ v.drop d <+: new.map ch) := by
  induction text using replaceInduction ch hne generalizing v with
  | nil => exact .inl h
  | hit w hw b rest hb hfind ih =>
      rw [replaceAny_hit hb (hne w hw) hfind, List.map_append] at h
      by_cases hv : v = []
      · exact .inl (hv ▸ List.nil_prefix)
      · refine .inr ⟨0, List.length_pos_iff.mpr hv, ⟨w, hw, ?_⟩, ?_⟩
        · rw [List.map_append, hb]
          exact List.prefix_append _ _
        · exact List.prefix_or_prefix_of_prefix (List.prefix_append _ _) h
  | miss c text hmiss ih =>
      rw [replaceAny_miss hmiss, List.map_cons] at h
      cases v with
      | nil => exact .inl List.nil_prefix
      | cons x v =>
          rw [List.cons_prefix_cons] at h
          rcases ih h.2 with hbegins | ⟨d, hd, hw, hnew⟩
          · exact .inl (List.cons_prefix_cons.mpr ⟨h.1, hbegins⟩)
          · exact .inr ⟨d + 1, by simpa using hd, hw, hnew⟩

/-- The words that begin a text of apart occurrences are one. -/
theorem find_eq {w : List β} (hw : w ∈ words) (hhead : w <+: text.map ch)
    (hone : ∀ u ∈ words, u <+: text.map ch → u = w) :
    words.find? (fun u => u <+: text.map ch) = some w := by
  cases hfind : words.find? (fun u => u <+: text.map ch) with
  | none => exact absurd hhead (by simpa using List.find?_eq_none.mp hfind w hw)
  | some u =>
      have hu : u <+: text.map ch := by simpa using List.find?_some hfind
      rw [hone u (List.mem_of_find?_eq_some hfind) hu]

theorem replaceAny_head {w : List β} {b rest : List α} (hne : ∀ w ∈ words, w ≠ [])
    (hap : Apart words ((b ++ rest).map ch)) (hw : w ∈ words) (hb : b.map ch = w) :
    replaceAny ch new words (b ++ rest) = new ++ replaceAny ch new words rest := by
  have hhead : w <+: (b ++ rest).map ch := by
    rw [List.map_append, hb]
    exact List.prefix_append _ _
  refine replaceAny_hit hb (hne w hw) (find_eq hw hhead fun u hu hbegins => ?_)
  have hpos : 0 < w.length := List.length_pos_iff.mpr (hne w hw)
  exact (hap.inside hw hu hhead hpos (by simpa using hbegins)).1.symm

/-- Replacing a word after some others is replacing it with them. -/
theorem replaceAny_cons (hne : ∀ w ∈ v :: words, w ≠ []) (hv : v ∉ words)
    (hap : Apart (v :: words) (text.map ch))
    (htol : (∃ w ∈ words, w <:+: text.map ch) → Tolerates (new.map ch) v) :
    replace ch new v (replaceAny ch new words text) = replaceAny ch new (v :: words) text := by
  have hvne : v ≠ [] := hne v List.mem_cons_self
  have hwne : ∀ w ∈ words, w ≠ [] := fun w hw => hne w (List.mem_cons_of_mem _ hw)
  have hone : ∀ w ∈ [v], w ≠ [] := fun w hw => by
    rw [List.mem_singleton] at hw
    exact hw ▸ hvne
  induction text using replaceInduction ch hne with
  | nil => rfl
  | hit w hw b rest hb hfind ih =>
      rw [List.map_append] at hap htol
      have hrest : replace ch new v (replaceAny ch new words rest) =
          replaceAny ch new (v :: words) rest := by
        refine ih hap.append fun hoccurs => htol ?_
        obtain ⟨u, hu, hin⟩ := hoccurs
        exact ⟨u, hu, hin.trans (List.suffix_append _ _).isInfix⟩
      rw [← List.map_append] at hap
      rw [replaceAny_head hne hap hw hb, ← hrest]
      cases List.mem_cons.mp hw with
      | inl hwv =>
          -- the word itself stands here, and none of the others begins inside it
          rw [hwv] at hb
          have hmiss : ∀ j < b.length, Misses ch words ((b ++ rest).drop j) := by
            intro j hj u hu hbegins
            have hhead : v <+: (b ++ rest).map ch := by
              rw [List.map_append, hb]
              exact List.prefix_append _ _
            have hlt : j < v.length := by rwa [← hb, List.length_map]
            rw [List.map_drop] at hbegins
            have hsame := hap.inside List.mem_cons_self (List.mem_cons_of_mem _ hu) hhead hlt
              hbegins
            exact hv (hsame.1 ▸ hu)
          rw [replaceAny_append b rest hmiss]
          refine replaceAny_hit hb hvne ?_
          simp [hb]
      | inr hwords =>
          have hoccurs : ∃ u ∈ words, u <:+: b.map ch ++ rest.map ch :=
            ⟨w, hwords, hb ▸ (List.prefix_append _ _).isInfix⟩
          have hapw : Apart words ((b ++ rest).map ch) := fun u hu u' hu' =>
            hap u (List.mem_cons_of_mem _ hu) u' (List.mem_cons_of_mem _ hu')
          rw [replaceAny_head hwne hapw hwords hb, replace_new hvne (htol hoccurs)]
  | miss c text hmiss ih =>
      have hrest : replace ch new v (replaceAny ch new words text) =
          replaceAny ch new (v :: words) text := by
        refine ih ?_ fun hoccurs => htol ?_
        · exact hap.drop 1
        · obtain ⟨u, hu, hin⟩ := hoccurs
          exact ⟨u, hu, hin.trans (List.suffix_cons _ _).isInfix⟩
      have hmissw : Misses ch words (c :: text) := fun u hu =>
        hmiss u (List.mem_cons_of_mem _ hu)
      rw [replaceAny_miss hmiss, replaceAny_miss hmissw, ← hrest]
      refine replaceAny_miss fun u hu hbegins => ?_
      rw [List.mem_singleton] at hu
      subst hu
      have hwalk : replaceAny ch new words (c :: text) = c :: replaceAny ch new words text :=
        replaceAny_miss hmissw
      rw [← hwalk] at hbegins
      rcases begins_replaceAny hwne hbegins with hhead | ⟨d, hd, ⟨w, hw, hin⟩, hnew⟩
      · exact hmiss u List.mem_cons_self hhead
      · have hoccurs : ∃ w ∈ words, w <:+: (c :: text).map ch :=
          ⟨w, hw, hin.isInfix.trans (List.drop_suffix _ _).isInfix⟩
        cases htol hoccurs with
        | inr hmeets => exact hmeets (.inl ⟨d, hd, hnew⟩)
        | inl hsame =>
            -- an occurrence of the new word would overlap the one put in
            have hpos : 0 < d := by
              refine Nat.pos_of_ne_zero fun hzero => hmissw w hw ?_
              simpa [hzero] using hin
            refine hsame.2 ⟨d, hsame.1 ▸ hd, hpos, ?_⟩
            rw [← hsame.1] at hnew ⊢
            cases hnew with
            | inr hnew => exact hnew
            | inl hnew =>
                have := hnew.length_le
                rw [List.length_drop] at this
                omega

/-- Which words are replaced matters, not in which order they are listed. -/
theorem replaceAny_congr {words' : List (List β)} (hne : ∀ w ∈ words, w ≠ [])
    (hsame : ∀ w, w ∈ words ↔ w ∈ words') (hap : Apart words (text.map ch)) :
    replaceAny ch new words text = replaceAny ch new words' text := by
  have hap' : ∀ t : List α, Apart words (t.map ch) → Apart words' (t.map ch) :=
    fun t h v hv w hw => h v ((hsame v).mpr hv) w ((hsame w).mpr hw)
  have hne' : ∀ w ∈ words', w ≠ [] := fun w hw => hne w ((hsame w).mpr hw)
  induction text using replaceInduction ch hne with
  | nil => rfl
  | hit w hw b rest hb hfind ih =>
      have hrest : Apart words (rest.map ch) := by
        rw [List.map_append] at hap
        exact hap.append
      rw [replaceAny_head hne hap hw hb, ih hrest,
        replaceAny_head hne' (hap' _ hap) ((hsame w).mp hw) hb]
  | miss c text hmiss ih =>
      have hmiss' : Misses ch words' (c :: text) := fun w hw => hmiss w ((hsame w).mpr hw)
      rw [replaceAny_miss hmiss, replaceAny_miss hmiss', ih (hap.drop 1)]

/-- Replacing the words one after the other is replacing them at once. -/
theorem foldl_replace (hne : ∀ w ∈ words, w ≠ []) (hnodup : words.Nodup)
    (hap : Apart words (text.map ch))
    (htol : ∀ v ∈ words, ∀ w ∈ words, v ≠ w → w <:+: text.map ch → Tolerates (new.map ch) v) :
    words.foldl (fun text w => replace ch new w text) text = replaceAny ch new words text := by
  induction words using List.reverseRecOn with
  | nil =>
      have hnone : ∀ t : List α, replaceAny ch new [] t = t := by
        intro t
        induction t with
        | nil => rfl
        | cons c t ih => rw [replaceAny_miss (fun w hw => by cases hw), ih]
      exact (hnone text).symm
  | append_singleton words v ih =>
      have hsub : ∀ w ∈ words, w ∈ words ++ [v] := fun w hw => List.mem_append_left _ hw
      have hv : v ∉ words := fun hmem => (List.nodup_append.mp hnodup).2.2 v hmem v (by simp) rfl
      have hmem : ∀ w, w ∈ v :: words ↔ w ∈ words ++ [v] := fun w => by
        simp [or_comm]
      have hap' : Apart (v :: words) (text.map ch) := fun u hu w hw =>
        hap u ((hmem u).mp hu) w ((hmem w).mp hw)
      have hne' : ∀ w ∈ v :: words, w ≠ [] := fun w hw => hne w ((hmem w).mp hw)
      rw [List.foldl_append, ih (fun w hw => hne w (hsub w hw)) (List.nodup_append.mp hnodup).1
        (fun u hu w hw => hap u (hsub u hu) w (hsub w hw))
        (fun u hu w hw => htol u (hsub u hu) w (hsub w hw))]
      show replace ch new v (replaceAny ch new words text) = _
      rw [← replaceAny_congr hne' hmem hap']
      refine replaceAny_cons hne' hv hap' ?_
      rintro ⟨w, hw, hin⟩
      exact htol v (by simp) w (hsub w hw) (fun heq => hv (heq ▸ hw)) hin

/-- A cell that is left of the text stood outside every occurrence. -/
theorem mem_replaceAny {x : α} (hne : ∀ w ∈ words, w ≠ []) (hap : Apart words (text.map ch))
    (hx : x ∈ replaceAny ch new words text) :
    x ∈ new ∨ ∃ b rest, text = b ++ x :: rest ∧ ∀ w ∈ words, ∀ j ≤ b.length,
      w <+: (text.map ch).drop j → j + w.length ≤ b.length := by
  induction text using replaceInduction ch hne with
  | nil => cases hx
  | hit u hu b rest hb hfind ih =>
      rw [replaceAny_hit hb (hne u hu) hfind, List.mem_append] at hx
      cases hx with
      | inl hnew => exact .inl hnew
      | inr hx =>
          have hrest : Apart words (rest.map ch) := by
            rw [List.map_append] at hap
            exact hap.append
          rcases ih hrest hx with hnew | ⟨b', rest', heq, hout⟩
          · exact .inl hnew
          · refine .inr ⟨b ++ b', rest', by rw [heq, List.append_assoc], fun w hw j hj hin => ?_⟩
            rw [List.length_append] at hj ⊢
            by_cases hjb : j < b.length
            · -- the occurrence at the head is the only one that begins in it
              have hhead : u <+: (b ++ rest).map ch := by
                rw [List.map_append, hb]
                exact List.prefix_append _ _
              have hlt : j < u.length := by rwa [← hb, List.length_map]
              have hsame := hap.inside hu hw hhead hlt hin
              rw [hsame.2, ← hsame.1, ← hb, List.length_map]
              omega
            · have hin' : w <+: (rest.map ch).drop (j - b.length) := by
                rw [List.map_append, List.drop_append, List.length_map,
                  List.drop_eq_nil_of_le (by simpa using Nat.le_of_not_lt hjb),
                  List.nil_append] at hin
                exact hin
              have := hout w hw (j - b.length) (by omega) hin'
              omega
  | miss c text hmiss ih =>
      rw [replaceAny_miss hmiss, List.mem_cons] at hx
      have hzero : ∀ w ∈ words, ¬ w <+: ((c :: text).map ch).drop 0 := hmiss
      cases hx with
      | inl hx =>
          refine .inr ⟨[], text, by rw [hx]; rfl, fun w hw j hj hin => ?_⟩
          rw [Nat.le_zero.mp hj] at hin
          exact absurd hin (hzero w hw)
      | inr hx =>
          rcases ih (hap.drop 1) hx with hnew | ⟨b, rest, heq, hout⟩
          · exact .inl hnew
          · refine .inr ⟨c :: b, rest, by rw [heq]; rfl, fun w hw j hj hin => ?_⟩
            cases j with
            | zero => exact absurd hin (hzero w hw)
            | succ j =>
                have := hout w hw j (by simpa using hj) hin
                rw [List.length_cons]
                omega

end Compose

/-! ## Runs of cells that were there -/

section Kept

variable {ch new} {words : List (List β)} {text s : List α} {kept : α → Prop}

omit [DecidableEq β] in
/-- A run of kept cells behind cells that are not lies in the rest. -/
theorem infix_of_append (hnew : ∀ x ∈ new, ¬ kept x) (hs : ∀ x ∈ s, kept x)
    (h : s <:+: new ++ text) : s <:+: text := by
  induction new with
  | nil => exact h
  | cons y new ih =>
      rw [List.cons_append, List.infix_cons_iff] at h
      cases h with
      | inr h => exact ih (fun x hx => hnew x (List.mem_cons_of_mem _ hx)) h
      | inl h =>
          cases s with
          | nil => exact List.nil_infix
          | cons x s =>
              rw [List.cons_prefix_cons] at h
              exact absurd (hs x List.mem_cons_self) (h.1 ▸ hnew y List.mem_cons_self)

omit [DecidableEq β] in
/-- A run of kept cells at the start ends before cells that are not. -/
theorem prefix_of_append {a : List α} (hnonempty : new ≠ []) (hnew : ∀ x ∈ new, ¬ kept x)
    (hs : ∀ x ∈ s, kept x) (h : s <+: a ++ (new ++ text)) : s <+: a := by
  induction a generalizing s with
  | nil =>
      obtain ⟨y, new', rfl⟩ := List.exists_cons_of_ne_nil hnonempty
      cases s with
      | nil => exact List.nil_prefix
      | cons x s =>
          rw [List.nil_append, List.cons_append, List.cons_prefix_cons] at h
          exact absurd (hs x List.mem_cons_self) (h.1 ▸ hnew y List.mem_cons_self)
  | cons c a ih =>
      cases s with
      | nil => exact List.nil_prefix
      | cons x s =>
          rw [List.cons_append, List.cons_prefix_cons] at h
          exact List.cons_prefix_cons.mpr
            ⟨h.1, ih (fun y hy => hs y (List.mem_cons_of_mem _ hy)) h.2⟩

omit [DecidableEq β] in
/-- A run of kept cells lies on one side of cells that are not. -/
theorem infix_split {a : List α} (hnonempty : new ≠ []) (hnew : ∀ x ∈ new, ¬ kept x)
    (hs : ∀ x ∈ s, kept x) (h : s <:+: a ++ (new ++ text)) : s <:+: a ∨ s <:+: text := by
  induction a with
  | nil => exact .inr (infix_of_append hnew hs h)
  | cons c a ih =>
      have hhead : s <+: c :: a ++ (new ++ text) → s <+: c :: a :=
        prefix_of_append hnonempty hnew hs
      rw [List.cons_append] at h hhead
      cases List.infix_cons_iff.mp h with
      | inl h => exact .inl (hhead h).isInfix
      | inr h => exact (ih h).imp_left fun h => h.trans (List.suffix_cons _ _).isInfix

/-- A run of kept cells at the start was the start of the text. -/
theorem prefix_replaceAny (hne : ∀ w ∈ words, w ≠ []) (hnonempty : new ≠ [])
    (hnew : ∀ x ∈ new, ¬ kept x) (hs : ∀ x ∈ s, kept x)
    (h : s <+: replaceAny ch new words text) : s <+: text := by
  induction text using replaceInduction ch hne generalizing s with
  | nil => exact h
  | hit w hw b rest hb hfind ih =>
      rw [replaceAny_hit hb (hne w hw) hfind] at h
      have hnone : s <+: [] := prefix_of_append hnonempty hnew hs h
      rw [List.prefix_nil.mp hnone]
      exact List.nil_prefix
  | miss c text hmiss ih =>
      rw [replaceAny_miss hmiss] at h
      cases s with
      | nil => exact List.nil_prefix
      | cons x s =>
          rw [List.cons_prefix_cons] at h ⊢
          exact ⟨h.1, ih (fun x hx => hs x (List.mem_cons_of_mem _ hx)) h.2⟩

/-- A run of kept cells was a run of the text, and none of the words stood in it. -/
theorem infix_replaceAny (hne : ∀ w ∈ words, w ≠ []) (hnonempty : new ≠ [])
    (hnew : ∀ x ∈ new, ¬ kept x) (hs : ∀ x ∈ s, kept x)
    (h : s <:+: replaceAny ch new words text) : s <:+: text ∧ s.map ch ∉ words := by
  have hblank : ([] : List α).map ch ∉ words := fun hmem => hne _ hmem rfl
  induction text using replaceInduction ch hne with
  | nil =>
      rw [List.infix_nil.mp h]
      exact ⟨List.nil_infix, hblank⟩
  | hit w hw b rest hb hfind ih =>
      rw [replaceAny_hit hb (hne w hw) hfind] at h
      have hrest := ih (infix_of_append hnew hs h)
      exact ⟨hrest.1.trans (List.suffix_append _ _).isInfix, hrest.2⟩
  | miss c text hmiss ih =>
      have hstart : s <+: replaceAny ch new words (c :: text) →
          s <:+: c :: text ∧ s.map ch ∉ words := fun h => by
        have hhead := prefix_replaceAny hne hnonempty hnew hs h
        exact ⟨hhead.isInfix, fun hmem => hmiss _ hmem (hhead.map ch)⟩
      rw [replaceAny_miss hmiss] at h hstart
      cases List.infix_cons_iff.mp h with
      | inl h => exact hstart h
      | inr h => exact ⟨(ih h).1.trans (List.suffix_cons _ _).isInfix, (ih h).2⟩

end Kept

end Replacement
