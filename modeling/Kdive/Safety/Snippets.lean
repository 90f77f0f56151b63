import Kdive.Lib.Utf8
import Kdive.Safety.RedactValue

/-!
# Snippets

A response shows the start or the end of a longer text.  The introspection handlers
redact the text and cut the result.  Three other places cut first: the values of
`list_variables`, the text about the module symbols of a crash dump, and the tail of a
build log.  A secret that the cut splits is no longer found there.

`Snippet` collects the places, with what each shows (`shown`), where it cuts
(`truncate`) and when cutting first makes no difference (`CutSafe`).  For a start of a
text the cut is safe when nothing is redacted before it (`Untouched`), or when the text
and the redacted text both fit.
-/

namespace Kdive

open Replacement

/-! ## The places -/

/-- `_redact_and_truncate`. -/
def redactAndTruncate (redactor : Redactor) (text : Text) (cap : Nat := 256) : Text :=
  (redactor.redactText text).take cap

/-- `s[-n:]`. -/
def lastChars {α : Type} (n : Nat) (s : List α) : List α :=
  if n = 0 then s else s.drop (s.length - n)

/-- `_head_tail`. -/
def headTail (s : Text) (head tail : Nat) : Text :=
  if s.length ≤ head + tail then s
  else s.take head ++ "\n…[truncated]…\n".toList ++ lastChars tail s

/-- The string under a name, or the empty one: `mapping.get(name, "")`. -/
def strUnder (name : Text) : Value Text → Text
  | .mapping items =>
      match items.lookup (.str name) with
      | some (.str text) => text
      | _ => []
  | _ => []

/-- `user_stdout_snippet`, of the payload the wrapper printed. -/
def userStdoutSnippet (redactor : Redactor) (payload : Value Text) (head : Nat := 2048)
    (tail : Nat := 2048) : Text :=
  headTail (strUnder "user_stdout".toList (redactor.redactValue payload)) head tail

/-- `drgn_stderr_snippet`. -/
def drgnStderrSnippet (redactor : Redactor) (rawStderr : Text) (head : Nat := 2048)
    (tail : Nat := 2048) : Text :=
  headTail (redactor.redactText rawStderr) head tail

/-- One row of `list_variables`. -/
def listVariable (redactor : Redactor) (name value : Text) (maxSnippet : Nat := 4096) :
    Value Text :=
  redactor.redactValue (.mapping
    [(.str "name".toList, .str name), (.str "value".toList, .str (value.take maxSnippet))])

/-- `detail` of `_crash_module_symbol_status`. -/
def crashModuleDetail (redactor : Redactor) (modText : Text) (cap : Nat := 512) : Text :=
  redactor.redactText (modText.take cap)

/-- `_log_tail` of a file of octets: it seeks to `limit` octets before the end. -/
def logTail (redactor : Redactor) (log : List Nat) (limit : Nat := 4000) : Text :=
  redactor.redactText (Utf8.decode (log.drop (log.length - limit)))

/-- A text that is shown in part, and where. -/
inductive Snippet where
  /-- A message of an introspection handler. -/
  | message (text : Text) (cap : Nat)
  /-- The output of a script, in the payload the wrapper printed. -/
  | stdout (payload : List (Key × Value Text)) (head tail : Nat)
  /-- The error output of drgn. -/
  | stderr (text : Text) (head tail : Nat)
  /-- The value of a variable. -/
  | localValue (name value : Text) (cap : Nat)
  /-- The output of `mod` in a crash session. -/
  | crashModules (text : Text) (cap : Nat)
  /-- A build log. -/
  | log (octets : List Nat) (limit : Nat)

namespace Snippet

/-- The whole text. -/
def text : Snippet → Text
  | .message text _ | .stderr text _ _ | .localValue _ text _ | .crashModules text _ => text
  | .stdout payload _ _ => strUnder "user_stdout".toList (.mapping payload)
  | .log octets _ => Utf8.decode octets

/-- What the program shows of it. -/
def shown (redactor : Redactor) : Snippet → Text
  | .message text cap => redactAndTruncate redactor text cap
  | .stdout payload head tail => userStdoutSnippet redactor (.mapping payload) head tail
  | .stderr text head tail => drgnStderrSnippet redactor text head tail
  | .localValue name value cap => strUnder "value".toList (listVariable redactor name value cap)
  | .crashModules text cap => crashModuleDetail redactor text cap
  | .log octets limit => logTail redactor octets limit

/-- The cut of the place, on a text. -/
def truncate : Snippet → Text → Text
  | .message _ cap, s | .localValue _ _ cap, s | .crashModules _ cap, s => s.take cap
  | .stdout _ head tail, s | .stderr _ head tail, s => headTail s head tail
  | .log _ limit, s => Utf8.decode ((Utf8.encode s).drop ((Utf8.encode s).length - limit))

/-- The snippet is the cut of the redacted text, and there is no secret in that for the
cut to split. -/
def RedactedFirst (redactor : Redactor) (snippet : Snippet) : Prop :=
  snippet.shown redactor = snippet.truncate (redactor.redactText snippet.text) ∧
    CleanText redactor.secretValues (redactor.redactCells snippet.text)

end Snippet

/-! ## Cutting first -/

/-- Nothing is redacted in the first `cap` characters of the text: no secret begins
there, they hold no pair, and no secret that stands behind them is replaced by a marker
that others could be found in. -/
def Redactor.Untouched (redactor : Redactor) (text : Text) (cap : Nat) : Prop :=
  (∀ value ∈ redactor.secretValues, ∀ i < cap, ¬ value <+: text.drop i) ∧
    ¬ HoldsPair redactor.alnum (text.take cap) ∧
    ((∃ value ∈ redactor.secretValues, value <:+: text) →
      ∀ value ∈ redactor.secretValues, Tolerates REDACTION value)

/-- Cutting before redaction makes no difference here. -/
def Snippet.CutSafe (redactor : Redactor) : Snippet → Prop
  | .message .. | .stdout .. | .stderr .. => True
  | .localValue _ text cap | .crashModules text cap =>
      (text.length ≤ cap ∧ (redactor.redactText text).length ≤ cap) ∨
        redactor.Untouched text cap
  | .log octets limit =>
      let text := Utf8.decode octets
      (octets.length ≤ limit ∧ (Utf8.encode (redactor.redactText text)).length ≤ limit) ∨
        (Utf8.encode text = octets ∧ redactor.Plain text ∧
          redactor.Plain (Utf8.decode (octets.drop (octets.length - limit))))

/-! ## Nothing redacted before the cut -/

/-- Nothing is replaced before a place where no word begins, and no word begins there
afterwards. -/
theorem replace_before {values : List Text} {value a b : Text} (hvalue : value ∈ values)
    (hfilled : ∀ w ∈ values, w ≠ []) (htol : ∀ w ∈ values, Tolerates REDACTION w)
    (hnone : ∀ w ∈ values, ∀ i < a.length, ¬ w <+: (a ++ b).drop i) :
    replace id REDACTION value (a ++ b) = a ++ replace id REDACTION value b ∧
      ∀ w ∈ values, ∀ i < a.length, ¬ w <+: (a ++ replace id REDACTION value b).drop i := by
  have hone : ∀ w ∈ [value], w ≠ [] := fun w hw => by
    rw [List.mem_singleton.mp hw]
    exact hfilled value hvalue
  have hmiss : ∀ i < a.length, Misses id [value] ((a ++ b).drop i) := by
    intro i hi w hw hbegins
    rw [List.mem_singleton.mp hw, List.map_id] at hbegins
    exact hnone value hvalue i hi hbegins
  refine ⟨replaceAny_append a b hmiss, fun w hw i hi hbegins => ?_⟩
  have hdrop : (a ++ replace id REDACTION value b).drop i =
      replaceAny id REDACTION [value] ((a ++ b).drop i) := by
    rw [List.drop_append_of_le_length (Nat.le_of_lt hi),
      List.drop_append_of_le_length (Nat.le_of_lt hi)]
    refine (replaceAny_append (a.drop i) b fun j hj => ?_).symm
    rw [List.length_drop] at hj
    rw [← List.drop_append_of_le_length (Nat.le_of_lt hi), List.drop_drop]
    exact hmiss (i + j) (by omega)
  rw [hdrop] at hbegins
  have hid : ∀ t : Text, t.map id = t := List.map_id
  have hletters : w <+: (replaceAny id REDACTION [value] ((a ++ b).drop i)).map id := by
    rwa [hid]
  have hcases := begins_replaceAny hone hletters
  rw [hid, hid] at hcases
  rcases hcases with hbefore | ⟨d, hd, ⟨u, hu, hin⟩, hnew⟩
  · exact hnone w hw i hi hbefore
  · rw [List.mem_singleton.mp hu, List.drop_drop] at hin
    cases htol w hw with
    | inr hmeets => exact hmeets (.inl ⟨d, hd, hnew⟩)
    | inl hsame =>
        have hpos : 0 < d := by
          refine Nat.pos_of_ne_zero fun hzero => hnone value hvalue i hi ?_
          rwa [hzero] at hin
        refine hsame.2 ⟨d, hsame.1 ▸ hd, hpos, ?_⟩
        rw [hsame.1] at hnew
        cases hnew with
        | inr hnew => exact hnew
        | inl hnew =>
            have := hnew.length_le
            rw [List.length_drop] at this
            rw [hsame.1] at hd
            omega

/-- The first pass leaves what no value begins in. -/
theorem foldl_before {values : List Text} {a b : Text} (hfilled : ∀ w ∈ values, w ≠ [])
    (htol : (∃ w ∈ values, w <:+: a ++ b) → ∀ w ∈ values, Tolerates REDACTION w)
    (hnone : ∀ w ∈ values, ∀ i < a.length, ¬ w <+: (a ++ b).drop i) :
    ∃ b', values.foldl (fun redacted value => replace id REDACTION value redacted) (a ++ b) =
      a ++ b' := by
  by_cases hoccurs : ∃ w ∈ values, w <:+: a ++ b
  · have hall := htol hoccurs
    have hfold : ∀ (rest : List Text) (b : Text), (∀ w ∈ rest, w ∈ values) →
        (∀ w ∈ values, ∀ i < a.length, ¬ w <+: (a ++ b).drop i) →
        ∃ b', rest.foldl (fun redacted value => replace id REDACTION value redacted) (a ++ b) =
          a ++ b' := by
      intro rest
      induction rest with
      | nil => exact fun b _ _ => ⟨b, rfl⟩
      | cons value rest ih =>
          intro b hrest hnone
          have hstep := replace_before (hrest value List.mem_cons_self) hfilled hall hnone
          rw [List.foldl_cons, hstep.1]
          exact ih _ (fun w hw => hrest w (List.mem_cons_of_mem _ hw)) hstep.2
    exact hfold values b (fun w hw => hw) hnone
  · refine ⟨b, foldl_of_none fun value hvalue hin => hoccurs ⟨value, hvalue, hin⟩⟩

/-- A pair whose value begins in the start of a text stands in that start. -/
theorem Matches.take {alnum : Char → Bool} {before : Option Char}
    {text name space space' value rest : Text} {sep : Char}
    (h : Matches alnum before text name space sep space' value rest) {n : Nat}
    (hn : name.length + space.length + 1 + space'.length < n) :
    ∃ value' rest', Matches alnum before (text.take n) name space sep space' value' rest' := by
  obtain ⟨v, tail, hvalue⟩ := List.exists_cons_of_ne_nil h.value_ne
  obtain ⟨m, rfl⟩ := Nat.exists_eq_add_of_lt hn
  refine ⟨value.take (m + 1), rest.take (m + 1 - value.length), ?_, ?_, h.name_chars, h.named,
    h.spaces, h.separator, h.spaces', ?_, fun c hc => h.value_chars c (List.mem_of_mem_take hc)⟩
  · have hlen : name.length + space.length + 1 + space'.length + m + 1 =
        name.length + (space.length + (1 + (space'.length + (m + 1)))) := by omega
    rw [h.text_eq, hlen, List.take_length_add_append, List.take_length_add_append,
      Nat.add_comm 1, List.take_succ_cons, List.take_length_add_append, List.take_append]
  · have hhead : (text.take (name.length + space.length + 1 + space'.length + m + 1)).head? =
        text.head? := by
      cases text with
      | nil => rfl
      | cons c text => rfl
    unfold atBoundary
    rw [hhead]
    exact h.boundary
  · rw [hvalue]
    exact List.cons_ne_nil _ _

/-- The pass over pairs leaves a start of the text in which none of them stands. -/
theorem keyValueFrom_before {alnum : Char → Bool} {before : Option Char} {a : Text} (b : Text)
    (hnone : ∀ x y, a = x ++ y → ∀ name space sep space' value rest,
      ¬ Matches alnum (x.getLast?.or before) y name space sep space' value rest) :
    ∃ b', keyValueFrom id REDACTION alnum before 0 (a ++ b) = a ++ b' := by
  induction a generalizing before with
  | nil => exact ⟨_, rfl⟩
  | cons c a ih =>
      have hid : (c :: (a ++ b)).map id = c :: (a ++ b) := List.map_id _
      rw [List.cons_append, keyValueFrom, hid]
      cases hpair : keyValueAt alnum before (c :: (a ++ b)) with
      | none =>
          have hlater : ∀ x y, a = x ++ y → ∀ name space sep space' value rest,
              ¬ Matches alnum (x.getLast?.or (some c)) y name space sep space' value rest := by
            intro x y hsplit
            rw [← getLast?_cons_or c x before]
            exact hnone (c :: x) y (by rw [hsplit]; rfl)
          obtain ⟨b', hb'⟩ := ih hlater
          exact ⟨b', congrArg (c :: ·) hb'⟩
      | some lengths =>
          -- the value begins behind the start, so the start is copied
          obtain ⟨key, length⟩ := lengths
          obtain ⟨name, space, sep, space', value, rest, hmatches, _, hkey, _⟩ :=
            exists_matches hpair
          have hlong : (c :: a).length ≤ key := by
            refine Nat.le_of_not_lt fun hlt => ?_
            obtain ⟨value', rest', htaken⟩ := hmatches.take (hkey ▸ hlt)
            rw [← List.cons_append, List.take_left] at htaken
            exact hnone [] (c :: a) rfl _ _ _ _ _ _ htaken
          refine ⟨b.take (key - (c :: a).length) ++ (REDACTION ++
            keyValueFrom id REDACTION alnum (some c) (key + length - 1) (a ++ b)), ?_⟩
          show (c :: (a ++ b)).take key ++ REDACTION ++ _ = _
          rw [← List.cons_append, List.take_append, List.take_of_length_le hlong,
            List.append_assoc, List.append_assoc]
          rfl

/-- What is redacted later leaves the first `cap` characters alone. -/
theorem Redactor.Untouched.redactText {redactor : Redactor} {text : Text} {cap : Nat}
    (h : redactor.Untouched text cap) :
    ∃ rest, redactor.redactText text = text.take cap ++ rest := by
  obtain ⟨hnone, hpair, htol⟩ := h
  have hsplit : text.take cap ++ text.drop cap = text := List.take_append_drop cap text
  have hbegins : ∀ w ∈ redactor.secretValues, ∀ i < (text.take cap).length,
      ¬ w <+: (text.take cap ++ text.drop cap).drop i := fun w hw i hi => by
    rw [List.length_take] at hi
    rw [hsplit]
    exact hnone w hw i (by omega)
  obtain ⟨b, hfold⟩ := foldl_before redactor.filled (by rwa [hsplit]) hbegins
  rw [hsplit] at hfold
  have hpairs : ∃ b', keyValueFrom id REDACTION redactor.alnum none 0 (text.take cap ++ b) =
      text.take cap ++ b' := by
    refine keyValueFrom_before b fun x y hxy name space sep space' value rest hmatches => ?_
    rw [Option.or_none] at hmatches
    exact hpair ⟨x, y, hxy, name, space, sep, space', value, rest, hmatches⟩
  obtain ⟨b', hpairs⟩ := hpairs
  refine ⟨b', ?_⟩
  unfold Redactor.redactText Redactor.redactWith keyValueSub
  rw [hfold, hpairs]

/-- The first `cap` characters alone have nothing to redact. -/
theorem Redactor.Untouched.plain {redactor : Redactor} {text : Text} {cap : Nat}
    (h : redactor.Untouched text cap) : redactor.Plain (text.take cap) := by
  refine ⟨fun value hvalue hin => ?_, h.2.1⟩
  obtain ⟨before, since, heq⟩ := hin
  have hpos : 0 < value.length := List.length_pos_iff.mpr (redactor.filled value hvalue)
  have hlen : before.length < cap := by
    have := congrArg List.length heq
    rw [List.length_append, List.length_append, List.length_take] at this
    omega
  refine h.1 value hvalue before.length hlen ⟨since ++ text.drop cap, ?_⟩
  have htext : before ++ value ++ since ++ text.drop cap = text := by
    rw [heq, List.take_append_drop]
  calc value ++ (since ++ text.drop cap)
      = (before ++ (value ++ (since ++ text.drop cap))).drop before.length :=
        List.drop_left.symm
    _ = text.drop before.length := by
        rw [← List.append_assoc, ← List.append_assoc, htext]

/-- A start that is cut before it is redacted is the start of the redacted text. -/
theorem redactText_take {redactor : Redactor} {text : Text} {cap : Nat}
    (h : (text.length ≤ cap ∧ (redactor.redactText text).length ≤ cap) ∨
      redactor.Untouched text cap) :
    redactor.redactText (text.take cap) = (redactor.redactText text).take cap := by
  cases h with
  | inl hfits => rw [List.take_of_length_le hfits.1, List.take_of_length_le hfits.2]
  | inr huntouched =>
      rw [redactText_of_plain huntouched.plain]
      by_cases hshort : text.length ≤ cap
      · have hplain := huntouched.plain
        rw [List.take_of_length_le hshort] at hplain ⊢
        rw [redactText_of_plain hplain, List.take_of_length_le hshort]
      · obtain ⟨rest, hrest⟩ := huntouched.redactText
        have hlen : (text.take cap).length = cap := by
          rw [List.length_take]
          omega
        rw [hrest, List.take_append_of_le_length (Nat.le_of_eq hlen.symm),
          List.take_of_length_le (Nat.le_of_eq hlen)]

/-! ## Structured values around a snippet -/

theorem lookup_redactItems {τ σ : Type} (redact : τ → σ) (mask : σ) (isSensitive : Bool)
    (key : Key) (items : List (Key × Value τ)) :
    (redactItems redact mask isSensitive items).lookup key =
      (items.lookup key).map fun item =>
        if masks isSensitive key then .str mask else redactValueWith redact mask item := by
  induction items with
  | nil => rfl
  | cons entry items ih =>
      obtain ⟨k, item⟩ := entry
      rw [redactItems, List.lookup_cons, List.lookup_cons]
      by_cases hk : key = k
      · subst hk
        simp
      · rw [beq_false_of_ne hk]
        exact ih

theorem redactText_nil (redactor : Redactor) : redactor.redactText [] = [] := by
  refine redactText_of_plain ⟨fun value hvalue hin => ?_, ?_⟩
  · exact redactor.filled value hvalue (List.infix_nil.mp hin)
  · rintro ⟨before, after, heq, name, space, sep, space', value, rest, hmatches⟩
    have hafter : after = [] := (List.append_eq_nil_iff.mp heq.symm).2
    have := congrArg List.length hmatches.text_eq
    rw [hafter, List.length_append, List.length_append, List.length_cons, List.length_nil] at this
    omega

/-- The string under an ordinary key of a redacted mapping is redacted. -/
theorem strUnder_redactValue (redactor : Redactor) {name : Text}
    (hname : ∀ isSensitive, masks isSensitive (.str name) = false)
    (items : List (Key × Value Text)) :
    strUnder name (redactor.redactValue (.mapping items)) =
      redactor.redactText (strUnder name (.mapping items)) := by
  have hlookup := lookup_redactItems redactor.redactText REDACTION (sensitive items)
    (.str name) items
  rw [hname] at hlookup
  show (match (redactItems redactor.redactText REDACTION (sensitive items) items).lookup
    (.str name) with | some (.str text) => text | _ => []) = redactor.redactText
      (match items.lookup (.str name) with | some (.str text) => text | _ => [])
  rw [hlookup]
  generalize items.lookup (Key.str name) = item
  cases item with
  | none => exact (redactText_nil redactor).symm
  | some item =>
      cases item with
      | str text => rfl
      | scalar s => exact (redactText_nil redactor).symm
      | mapping items => exact (redactText_nil redactor).symm
      | list items => exact (redactText_nil redactor).symm
      | tuple items => exact (redactText_nil redactor).symm

/-- The value in a row is redacted after it was cut. -/
theorem listVariable_value (redactor : Redactor) (name value : Text) (cap : Nat) :
    strUnder "value".toList (listVariable redactor name value cap) =
      redactor.redactText (value.take cap) :=
  strUnder_redactValue redactor (by decide) _

/-! ## The snippets -/

end Kdive
