import Kdive.Lib.Association
import Kdive.Lib.Checked
import Kdive.Lib.CommandLine
import Kdive.Lib.KeyedMerge
import Mathlib.Data.List.TakeWhile

/-!
# Kernel arguments and config lines

A profile has lists of kernel arguments and of config lines, and a run may override
some of them.  The lists are validated token by token, and no two tokens may have the
same key.  The boot provider adds what it needs to the arguments of a profile and
joins them to the command line of the kernel.

`merging_and_command_line` says what a merged list keeps, that the kernel splits the
command line into the arguments it was joined of, and which lists end up with a single
`root` and a single `console`.
-/

namespace Kdive.Args

open CommandLine KeyedMerge

/-- A token, character by character. -/
abbrev Token := List Char

/-! ## Validation -/

/-- A loop that checks each token and that its key is new. -/
def validateFrom (ok : Token → Bool) (keyOf : Token → Token) (invalid duplicate : Token → String) :
    List Token → List Token → Except String Unit
  | _, [] => .ok ()
  | seen, token :: rest =>
      if ok token = false then .error (invalid token)
      else if keyOf token ∈ seen then .error (duplicate (keyOf token))
      else validateFrom ok keyOf invalid duplicate (keyOf token :: seen) rest

/-- It returns the list it was given. -/
def validateTokens (ok : Token → Bool) (keyOf : Token → Token) (invalid duplicate : Token → String)
    (value : List Token) : Except String (List Token) :=
  (validateFrom ok keyOf invalid duplicate [] value).map fun _ => value

/-- `[A-Za-z0-9_]`. -/
def isKeyStart (c : Char) : Bool := c.isAlphanum || c = '_'

/-- `[A-Za-z0-9_.:/+%@-]`. -/
def isQuotedKeyChar (c : Char) : Bool := isKeyStart c || c ∈ ['.', ':', '/', '+', '%', '@', '-']

/-- `[A-Za-z0-9_.:=,/+%@-]`. -/
def isArgChar (c : Char) : Bool := isQuotedKeyChar c || c ∈ ['=', ',']

/-- `[\x20-\x21\x23-\x7e]`. -/
def isQuotedChar (c : Char) : Bool := 0x20 ≤ c.toNat && c.toNat ≤ 0x7e && c ≠ '"'

/-- `_KERNEL_ARG_PATTERN`. -/
def kernelArgPattern : Token → Bool
  | [] => false
  | c :: rest => isKeyStart c && rest.all isArgChar

/-- `_KERNEL_ARG_QUOTED_PATTERN`.  Neither class has the character behind it, so each
repetition goes as far as it can. -/
def kernelArgQuotedPattern : Token → Bool
  | [] => false
  | c :: rest =>
      isKeyStart c &&
        match rest.dropWhile isQuotedKeyChar with
        | '=' :: '"' :: value => value.dropWhile isQuotedChar = ['"']
        | _ => false

/-- `token.split("=", 1)[0] if "=" in token else token`. -/
def keyOf (token : Token) : Token := if '=' ∈ token then token.takeWhile (· ≠ '=') else token

/-- `[A-Z0-9_]`. -/
def isSymbolChar (c : Char) : Bool := c.isUpper || c.isDigit || c = '_'

/-- `[0-9A-Fa-f]`. -/
def isHexDigit (c : Char) : Bool :=
  c.isDigit || ('a' ≤ c && c ≤ 'f') || ('A' ≤ c && c ≤ 'F')

section

-- `\d` beyond ASCII, and `repr`
variable (otherDigit : Char → Bool) (repr : Token → String)

/-- `-?\d+`. -/
def isInteger (value : List Char) : Bool :=
  let digits := if value.head? = some '-' then value.tail else value
  digits ≠ [] && digits.all fun c => c.isDigit || otherDigit c

/-- `[ymn]|-?\d+|0x[0-9A-Fa-f]+|"[^"\n\r]*"`. -/
def configValuePattern (value : List Char) : Bool :=
  value ∈ [['y'], ['m'], ['n']] || isInteger otherDigit value ||
    (match value with
      | '0' :: 'x' :: digits => digits ≠ [] && digits.all isHexDigit
      | '"' :: text => text.dropWhile (fun c => c ≠ '"' && c ≠ '\n' && c ≠ '\r') = ['"']
      | _ => false)

/-- What follows `CONFIG_`: a symbol, and what is left behind it. -/
def configSymbolPattern (line : Token) (isRest : List Char → Bool) : Bool :=
  line.takeWhile isSymbolChar ≠ [] && isRest (line.dropWhile isSymbolChar)

/-- `_CONFIG_LINE_PATTERN`. -/
def configLinePattern (line : Token) : Bool :=
  ("CONFIG_".toList.isPrefixOf line &&
    configSymbolPattern (line.drop 7) fun rest =>
      rest.head? = some '=' && configValuePattern otherDigit rest.tail) ||
  ("# CONFIG_".toList.isPrefixOf line &&
    configSymbolPattern (line.drop 9) fun rest => rest = " is not set".toList)

/-- `_config_symbol`. -/
def configSymbol (line : Token) : Token :=
  if "# CONFIG_".toList.isPrefixOf line then (line.drop 2).takeWhile (· ≠ ' ')
  else line.takeWhile (· ≠ '=')

/-- `validate_kernel_arg_tokens`. -/
def validateKernelArgTokens : List Token → Except String (List Token) :=
  validateTokens (fun token => kernelArgPattern token || kernelArgQuotedPattern token) keyOf
    (fun token => s!"unsafe kernel argument token: {repr token}")
    (fun key => s!"duplicate kernel argument key: {repr key}")

/-- `validate_config_line_tokens`. -/
def validateConfigLineTokens : List Token → Except String (List Token) :=
  validateTokens (configLinePattern otherDigit) configSymbol
    (fun line => s!"invalid kernel config line: {repr line}")
    (fun symbol => s!"duplicate kernel config symbol: {repr symbol}")

/-- `merge_kernel_args`. -/
def mergeKernelArgs : List Token → List Token → List Token := merge keyOf

/-- `merge_config_lines`. -/
def mergeConfigLines : List Token → List Token → List Token := merge configSymbol

end

/-! ## The provider -/

/-- The devices a provider boots from and listens on. -/
structure LocalLibvirtQemu where
  /-- `root_device`. -/
  rootDevice : List Char
  /-- `serial_device`. -/
  serialDevice : List Char

/-- `LibvirtQemuProvider`. -/
def libvirtQemuProvider : LocalLibvirtQemu := ⟨"/dev/vda".toList, "ttyS0".toList⟩

/-- Where `nokaslr` is from. -/
inductive NokaslrSource where
  | notApplicable
  | profileSupplied
  | providerAdded
deriving DecidableEq, Repr

/-- `_contains_arg`. -/
def containsArg (args : List Token) (key : Token) : Bool :=
  args.any fun arg => (key ++ ['=']).isPrefixOf arg

/-- `_console_device`, of an argument that begins with `console=`. -/
def consoleDevice (arg : Token) : List Char := (arg.drop 8).takeWhile (· ≠ ',')

namespace LocalLibvirtQemu

variable (provider : LocalLibvirtQemu)

/-- `_kernel_args`. -/
def kernelArgs (configured : List Token) : List Token :=
  let args := if containsArg configured "root".toList = true then configured
    else configured ++ ["root=".toList ++ provider.rootDevice]
  if containsArg args "console".toList = true then args
  else args ++ ["console=".toList ++ provider.serialDevice]

/-- `_debug_kernel_args`. -/
def debugKernelArgs (configured : List Token) (debugEnabled : Bool) : List Token × NokaslrSource :=
  let args := provider.kernelArgs configured
  if debugEnabled = false then (args, .notApplicable)
  else if "nokaslr".toList ∈ args then (args, .profileSupplied)
  else (args ++ ["nokaslr".toList], .providerAdded)

/-- `_validate_kernel_args`. -/
def validateKernelArgs : List Token → Except String Unit
  | [] => .ok ()
  | arg :: rest =>
      if "root=".toList.isPrefixOf arg ∧ arg ≠ "root=".toList ++ provider.rootDevice then
        .error s!"conflicting root= kernel argument: {String.ofList arg}"
      else if "console=".toList.isPrefixOf arg ∧ consoleDevice arg ≠ provider.serialDevice then
        .error s!"conflicting console= kernel argument: {String.ofList arg}"
      else validateKernelArgs rest

end LocalLibvirtQemu

/-- The command line in the domain XML. -/
def cmdline (kernelArgs : List Token) : List Char := joined kernelArgs

/-! ## Accepted lists -/

section

variable {ok : Token → Bool} {key : Token → Token} {invalid duplicate : Token → String}

theorem validateFrom_eq_ok {seen value : List Token} :
    validateFrom ok key invalid duplicate seen value = .ok () ↔
      (∀ token ∈ value, ok token = true) ∧ (value.map key).Nodup ∧
        ∀ token ∈ value, key token ∉ seen := by
  induction value generalizing seen with
  | nil => simp [validateFrom]
  | cons token rest ih =>
      rw [validateFrom]
      split
      · rename_i hinvalid
        simp [hinvalid]
      · rename_i hvalid
        split
        · rename_i hseen
          simp [hseen]
        · rename_i hseen
          rw [ih, List.forall_mem_cons, List.forall_mem_cons, List.map_cons, List.nodup_cons]
          simp only [Bool.not_eq_false] at hvalid
          constructor
          · rintro ⟨hok, hnodup, hnew⟩
            simp only [List.mem_cons, not_or] at hnew
            refine ⟨⟨hvalid, hok⟩, ⟨fun hmem => ?_, hnodup⟩, hseen, fun t ht => (hnew t ht).2⟩
            obtain ⟨t, ht, heq⟩ := List.mem_map.mp hmem
            exact (hnew t ht).1 heq
          · rintro ⟨⟨-, hok⟩, ⟨hnew, hnodup⟩, -, hseen'⟩
            refine ⟨hok, hnodup, fun t ht hmem => ?_⟩
            rcases List.mem_cons.mp hmem with heq | hmem
            · exact hnew (List.mem_map.mpr ⟨t, ht, heq⟩)
            · exact hseen' t ht hmem

theorem validateTokens_eq_ok {value : List Token} :
    validateTokens ok key invalid duplicate value = .ok value ↔
      (∀ token ∈ value, ok token = true) ∧ (value.map key).Nodup := by
  have hfrom := @validateFrom_eq_ok ok key invalid duplicate [] value
  rw [validateTokens]
  cases hrun : validateFrom ok key invalid duplicate [] value with
  | ok _ => simpa [Except.map, hrun] using hfrom
  | error e => simpa [Except.map, hrun] using hfrom

end

/-! ## Words of the command line -/

theorem isArgChar_plain {c : Char} (h : isArgChar c = true) : isBlank c = false ∧ c ≠ '"' := by
  refine ⟨?_, ?_⟩
  · by_contra hblank
    simp only [isBlank, Bool.not_eq_false, Bool.or_eq_true, decide_eq_true_eq] at hblank
    rcases hblank with ((((rfl | rfl) | rfl) | rfl) | rfl) | rfl <;> revert h <;> decide
  · rintro rfl
    revert h
    decide

theorem isArgChar_of_isKeyStart {c : Char} (h : isKeyStart c = true) : isArgChar c = true := by
  rw [isArgChar, isQuotedKeyChar, h, Bool.true_or, Bool.true_or]

theorem isArgChar_of_isQuotedKeyChar {c : Char} (h : isQuotedKeyChar c = true) :
    isArgChar c = true := by
  rw [isArgChar, h, Bool.true_or]

theorem closed_of_args {token : Token} (h : ∀ c ∈ token, isArgChar c = true) :
    Closed false token := by
  rw [← List.append_nil token]
  exact closed_append (fun c hc => isArgChar_plain (h c hc)) rfl

/-- The kernel keeps an accepted token in one piece. -/
theorem closed_of_accepted {token : Token}
    (h : (kernelArgPattern token || kernelArgQuotedPattern token) = true) :
    token ≠ [] ∧ Closed false token := by
  cases token with
  | nil => cases h
  | cons c rest =>
      refine ⟨List.cons_ne_nil _ _, ?_⟩
      rcases Bool.or_eq_true_iff.mp h with h | h
      · rw [kernelArgPattern, Bool.and_eq_true, List.all_eq_true] at h
        exact closed_of_args (List.forall_mem_cons.mpr ⟨isArgChar_of_isKeyStart h.1, h.2⟩)
      · rw [kernelArgQuotedPattern, Bool.and_eq_true] at h
        obtain ⟨hstart, h⟩ := h
        split at h
        · rename_i value hvalue
          have hkey : ∀ d ∈ c :: rest.takeWhile isQuotedKeyChar, isArgChar d = true :=
            List.forall_mem_cons.mpr ⟨isArgChar_of_isKeyStart hstart, fun d hd =>
              isArgChar_of_isQuotedKeyChar (List.mem_takeWhile_imp hd)⟩
          have htext : '"' ∉ value.takeWhile isQuotedChar := fun hquote => by
            cases List.mem_takeWhile_imp hquote
          have hsplit : c :: rest = (c :: rest.takeWhile isQuotedKeyChar ++ ['=']) ++
              '"' :: (value.takeWhile isQuotedChar ++ ['"']) := by
            have hrest := List.takeWhile_append_dropWhile (p := isQuotedKeyChar) (l := rest)
            have hclose := List.takeWhile_append_dropWhile (p := isQuotedChar) (l := value)
            rw [of_decide_eq_true h] at hclose
            rw [hclose, List.append_assoc, List.singleton_append, List.cons_append, ← hvalue, hrest]
          rw [hsplit]
          refine closed_append (fun d hd => isArgChar_plain ?_) ⟨fun hblank => ?_, closed_quoted htext⟩
          · rcases List.mem_append.mp hd with hd | hd
            · exact hkey d hd
            · rw [List.mem_singleton.mp hd]
              decide
          · cases hblank
        · cases h

/-! ## What the provider adds -/

/-- An argument that gives a key a value. -/
def setting (key value : List Char) : Token := key ++ '=' :: value

/-- Whether an argument gives this key a value. -/
def Sets (key : List Char) (arg : Token) : Prop := (key ++ ['=']).isPrefixOf arg = true

instance (key : List Char) (arg : Token) : Decidable (Sets key arg) :=
  inferInstanceAs (Decidable (_ = true))

/-- One of the two steps of `_kernel_args`. -/
def addArg (args : List Token) (key value : List Char) : List Token :=
  if containsArg args key = true then args else args ++ [setting key value]

theorem kernelArgs_eq (provider : LocalLibvirtQemu) (configured : List Token) :
    provider.kernelArgs configured =
      addArg (addArg configured "root".toList provider.rootDevice)
        "console".toList provider.serialDevice := rfl

section

variable {key other value : List Char} {arg : Token} {args : List Token}

theorem sets_iff : Sets key arg ↔ ∃ value, arg = setting key value := by
  rw [Sets, List.isPrefixOf_iff_prefix]
  constructor
  · rintro ⟨value, rfl⟩
    exact ⟨value, by rw [setting, List.append_assoc, List.singleton_append]⟩
  · rintro ⟨value, rfl⟩
    exact ⟨value, by rw [setting, List.append_assoc, List.singleton_append]⟩

theorem containsArg_eq_true : containsArg args key = true ↔ ∃ arg ∈ args, Sets key arg := by
  rw [containsArg, List.any_eq_true]
  rfl

theorem keyOf_setting (h : '=' ∉ key) (value : List Char) : keyOf (setting key value) = key := by
  rw [keyOf, setting, if_pos (by simp), List.takeWhile_append_of_pos (by
    intro c hc
    simpa using fun heq : c = '=' => h (heq ▸ hc))]
  simp

theorem keyOf_flag (h : '=' ∉ arg) : keyOf arg = arg := if_neg h

/-- An argument of a key is the flag, or gives it a value. -/
theorem keyOf_eq_iff (h : '=' ∉ key) : keyOf arg = key ↔ arg = key ∨ Sets key arg := by
  constructor
  · intro hkey
    by_cases harg : '=' ∈ arg
    · refine Or.inr (sets_iff.mpr ?_)
      obtain ⟨first, value, rfl, hfirst⟩ := List.eq_append_cons_of_mem harg
      rw [show first ++ '=' :: value = setting first value from rfl, keyOf_setting hfirst] at hkey
      exact ⟨value, by rw [← hkey]; rfl⟩
    · exact Or.inl (by rw [← hkey, keyOf_flag harg])
  · rintro (rfl | hsets)
    · exact keyOf_flag h
    · obtain ⟨value, rfl⟩ := sets_iff.mp hsets
      exact keyOf_setting h value

/-- The arguments of a key. -/
def argsOf (key : List Char) (args : List Token) : List Token := args.filter (keyOf · = key)

theorem mem_argsOf : arg ∈ argsOf key args ↔ arg ∈ args ∧ keyOf arg = key := by
  rw [argsOf, List.mem_filter, decide_eq_true_iff]

/-- Adding another key changes nothing for this one. -/
theorem argsOf_addArg_other (h : '=' ∉ other) (hne : other ≠ key) :
    argsOf key (addArg args other value) = argsOf key args := by
  rw [addArg]
  split
  · rfl
  · rw [argsOf, List.filter_append, List.filter_cons_of_neg
      (by simpa [keyOf_setting h value] using hne), List.filter_nil, List.append_nil, argsOf]

theorem mem_addArg_iff (h : '=' ∉ arg) : arg ∈ addArg args key value ↔ arg ∈ args := by
  rw [addArg]
  split
  · rfl
  · rw [List.mem_append, List.mem_singleton, or_iff_left]
    rintro rfl
    exact h (by simp [setting])

/-- A key that was there once at most is there once, unless it was a flag. -/
theorem argsOf_addArg (h : '=' ∉ key) (honce : (argsOf key args).length ≤ 1) :
    (argsOf key (addArg args key value)).length = 1 ↔ key ∉ args := by
  have hsets : ¬ Sets key key := fun hsets => by
    obtain ⟨v, hv⟩ := sets_iff.mp hsets
    exact h (by rw [hv]; simp [setting])
  rw [addArg]
  split
  · rename_i hcontains
    obtain ⟨arg, harg, hset⟩ := containsArg_eq_true.mp hcontains
    have hmem : arg ∈ argsOf key args := mem_argsOf.mpr ⟨harg, (keyOf_eq_iff h).mpr (Or.inr hset)⟩
    have hlength : (argsOf key args).length = 1 := by
      have := List.length_pos_of_mem hmem
      omega
    refine iff_of_true hlength fun hflag => hsets ?_
    obtain ⟨only, honly⟩ := List.length_eq_one_iff.mp hlength
    have hflagMem : key ∈ argsOf key args := mem_argsOf.mpr ⟨hflag, keyOf_flag h⟩
    rw [honly, List.mem_singleton] at hmem hflagMem
    rw [hflagMem.trans hmem.symm] at hset ⊢
    exact hset
  · rename_i hcontains
    have hlength : argsOf key (args ++ [setting key value]) =
        argsOf key args ++ [setting key value] := by
      rw [argsOf, List.filter_append, List.filter_cons_of_pos
        (by simp [keyOf_setting h value]), List.filter_nil, argsOf]
    rw [hlength, List.length_append, List.length_singleton, Nat.add_eq_right,
      List.length_eq_zero_iff]
    constructor
    · intro hnone hflag
      have hmem : key ∈ argsOf key args := mem_argsOf.mpr ⟨hflag, keyOf_flag h⟩
      rw [hnone] at hmem
      cases hmem
    · refine fun hflag => List.eq_nil_iff_forall_not_mem.mpr fun arg harg => ?_
      obtain ⟨hmem, hkey⟩ := mem_argsOf.mp harg
      rcases (keyOf_eq_iff h).mp hkey with rfl | hset
      · exact hflag hmem
      · exact hcontains (containsArg_eq_true.mpr ⟨arg, hmem, hset⟩)

/-- The arguments that give a key a value. -/
def settingsOf (key : List Char) (args : List Token) : List Token := args.filter (Sets key ·)

theorem mem_settingsOf : arg ∈ settingsOf key args ↔ arg ∈ args ∧ Sets key arg := by
  rw [settingsOf, List.mem_filter, decide_eq_true_iff]

theorem settingsOf_sublist (h : '=' ∉ key) : (settingsOf key args).Sublist (argsOf key args) :=
  List.monotone_filter_right args fun _ hset =>
    decide_eq_true ((keyOf_eq_iff h).mpr (Or.inr (of_decide_eq_true hset)))

theorem settingsOf_addArg_other (h : '=' ∉ key) (hother : '=' ∉ other) (hne : other ≠ key) :
    settingsOf key (addArg args other value) = settingsOf key args := by
  have hsets : ¬ Sets key (setting other value) := fun hsets => by
    have hkey := (keyOf_eq_iff h).mpr (Or.inr hsets)
    exact hne ((keyOf_setting hother value).symm.trans hkey)
  rw [addArg]
  split
  · rfl
  · rw [settingsOf, List.filter_append, List.filter_cons_of_neg (by simpa using hsets),
      List.filter_nil, List.append_nil, settingsOf]

/-- Then one argument gives the key a value: the provider's, or one that was there. -/
theorem settingsOf_addArg (h : '=' ∉ key) (honce : (argsOf key args).length ≤ 1) :
    ∃ arg, settingsOf key (addArg args key value) = [arg] ∧
      (arg = setting key value ∨ (arg ∈ args ∧ Sets key arg)) := by
  rw [addArg]
  split
  · rename_i hcontains
    obtain ⟨arg, harg, hset⟩ := containsArg_eq_true.mp hcontains
    have hmem : arg ∈ settingsOf key args := mem_settingsOf.mpr ⟨harg, hset⟩
    have hlength : (settingsOf key args).length = 1 := by
      have := List.length_pos_of_mem hmem
      have := (@settingsOf_sublist _ args h).length_le
      omega
    obtain ⟨only, honly⟩ := List.length_eq_one_iff.mp hlength
    refine ⟨only, honly, Or.inr (mem_settingsOf.mp ?_)⟩
    rw [honly]
    exact List.mem_singleton_self only
  · rename_i hcontains
    refine ⟨setting key value, ?_, Or.inl rfl⟩
    have hnone : settingsOf key args = [] := List.eq_nil_iff_forall_not_mem.mpr fun arg harg =>
      hcontains (containsArg_eq_true.mpr ⟨arg, mem_settingsOf.mp harg⟩)
    have hset : Sets key (setting key value) := sets_iff.mpr ⟨value, rfl⟩
    rw [settingsOf, List.filter_append, ← settingsOf, hnone,
      List.filter_cons_of_pos (by simpa using hset), List.filter_nil, List.nil_append]

end

/-- What the provider has checked of every argument. -/
theorem validateKernelArgs_eq_ok {provider : LocalLibvirtQemu} {args : List Token} :
    provider.validateKernelArgs args = .ok () ↔ ∀ arg ∈ args,
      (Sets "root".toList arg → arg = setting "root".toList provider.rootDevice) ∧
      (Sets "console".toList arg → consoleDevice arg = provider.serialDevice) := by
  induction args with
  | nil => simp [LocalLibvirtQemu.validateKernelArgs]
  | cons arg rest ih =>
      rw [List.forall_mem_cons, LocalLibvirtQemu.validateKernelArgs, ← ih]
      split
      · rename_i hroot
        exact iff_of_false (by rintro ⟨⟩) fun h => hroot.2 (h.1.1 hroot.1)
      · rename_i hroot
        split
        · rename_i hconsole
          exact iff_of_false (by rintro ⟨⟩) fun h => hconsole.2 (h.1.2 hconsole.1)
        · rename_i hconsole
          refine (and_iff_right ⟨fun hset => ?_, fun hset => ?_⟩).symm
          · exact not_not.mp fun hne => hroot ⟨hset, hne⟩
          · exact not_not.mp fun hne => hconsole ⟨hset, hne⟩

/-! ## The command line -/

section

variable (repr : Token → String)

/-- The validator of kernel arguments accepts a list. -/
def AcceptsArgs (args : List Token) : Prop := validateKernelArgTokens repr args = .ok args

/-- The validator of config lines accepts a list. -/
def AcceptsLines (otherDigit : Char → Bool) (lines : List Token) : Prop :=
  validateConfigLineTokens otherDigit repr lines = .ok lines

variable {repr}

theorem argsOf_length_le {args : List Token} (h : (args.map keyOf).Nodup) (key : List Char) :
    (argsOf key args).length ≤ 1 := by
  by_cases hmem : ∃ arg, arg ∈ argsOf key args
  · obtain ⟨arg, harg⟩ := hmem
    obtain ⟨hargs, rfl⟩ := mem_argsOf.mp harg
    rw [argsOf, Association.filter_eq_singleton h hargs, List.length_singleton]
  · rw [List.eq_nil_iff_forall_not_mem.mpr fun arg harg => hmem ⟨arg, harg⟩]
    exact Nat.zero_le 1

/-- What `nokaslr` is not among is not changed by adding it. -/
theorem filter_debugKernelArgs (provider : LocalLibvirtQemu) (args : List Token) (debug : Bool)
    {p : Token → Bool} (hp : p "nokaslr".toList = false) :
    (provider.debugKernelArgs args debug).1.filter p = (provider.kernelArgs args).filter p := by
  rw [LocalLibvirtQemu.debugKernelArgs]
  split
  · rfl
  · split
    · rfl
    · rw [List.filter_append, List.filter_cons_of_neg (by rw [hp]; decide), List.filter_nil,
        List.append_nil]

theorem mem_addArg {args : List Token} {key value : List Char} {arg : Token}
    (h : arg ∈ addArg args key value) : arg ∈ args ∨ arg = setting key value := by
  rw [addArg] at h
  split at h
  · exact Or.inl h
  · rwa [List.mem_append, List.mem_singleton] at h

/-- The list of the provider is what was configured and what it adds. -/
theorem mem_debugKernelArgs {provider : LocalLibvirtQemu} {args : List Token} {debug : Bool}
    {arg : Token} (h : arg ∈ (provider.debugKernelArgs args debug).1) :
    arg ∈ args ∨ arg ∈ [setting "root".toList provider.rootDevice,
      setting "console".toList provider.serialDevice, "nokaslr".toList] := by
  have hadded : ∀ arg ∈ provider.kernelArgs args,
      arg ∈ args ∨ arg ∈ [setting "root".toList provider.rootDevice,
        setting "console".toList provider.serialDevice, "nokaslr".toList] := by
    intro arg harg
    rw [kernelArgs_eq] at harg
    rcases mem_addArg harg with harg | rfl
    · rcases mem_addArg harg with harg | rfl
      · exact Or.inl harg
      · exact Or.inr (by simp)
    · exact Or.inr (by simp)
  rw [LocalLibvirtQemu.debugKernelArgs] at h
  split at h
  · exact hadded arg h
  · split at h
    · exact hadded arg h
    · rcases List.mem_append.mp h with h | h
      · exact hadded arg h
      · exact Or.inr (by simp [List.mem_singleton.mp h])

/-- The kernel splits the command line into the list it was joined of. -/
def SplitsBack (args : List Token) : Prop := splitKernel false [] (cmdline args) = args

/-- An argument of this key is there exactly once. -/
def Once (key : List Char) (args : List Token) : Prop := (argsOf key args).length = 1

theorem splitsBack_debugKernelArgs {args : List Token}
    (h : ∀ arg ∈ args, (kernelArgPattern arg || kernelArgQuotedPattern arg) = true) (debug : Bool) :
    SplitsBack (libvirtQemuProvider.debugKernelArgs args debug).1 := by
  have haddedValid : ∀ arg ∈ [setting "root".toList libvirtQemuProvider.rootDevice,
      setting "console".toList libvirtQemuProvider.serialDevice, "nokaslr".toList],
      (kernelArgPattern arg || kernelArgQuotedPattern arg) = true := by
    decide
  refine splitKernel_joined fun arg harg => closed_of_accepted ?_
  rcases mem_debugKernelArgs harg with harg | harg
  · exact h arg harg
  · exact haddedValid arg harg

theorem once_debugKernelArgs (provider : LocalLibvirtQemu) {args : List Token}
    (hnodup : (args.map keyOf).Nodup) (debug : Bool) :
    (Once "root".toList (provider.debugKernelArgs args debug).1 ↔ "root".toList ∉ args) ∧
      (Once "console".toList (provider.debugKernelArgs args debug).1 ↔ "console".toList ∉ args) := by
  constructor
  · rw [Once, argsOf, filter_debugKernelArgs _ _ _ (by decide), ← argsOf, kernelArgs_eq,
      argsOf_addArg_other (by decide) (by decide)]
    exact argsOf_addArg (by decide) (argsOf_length_le hnodup _)
  · rw [Once, argsOf, filter_debugKernelArgs _ _ _ (by decide), ← argsOf, kernelArgs_eq,
      ← @mem_addArg_iff _ _ "console".toList args (by decide)]
    refine argsOf_addArg (by decide) ?_
    rw [argsOf_addArg_other (by decide) (by decide)]
    exact argsOf_length_le hnodup _

/-- Of arguments the provider accepts, one sets the root device and one the console, and
they are the provider's devices. -/
theorem settings_debugKernelArgs {args : List Token} (hnodup : (args.map keyOf).Nodup)
    (hvalid : libvirtQemuProvider.validateKernelArgs args = .ok ()) (debug : Bool) :
    settingsOf "root".toList (libvirtQemuProvider.debugKernelArgs args debug).1 =
        [setting "root".toList libvirtQemuProvider.rootDevice] ∧
      ∃ arg, settingsOf "console".toList (libvirtQemuProvider.debugKernelArgs args debug).1 = [arg] ∧
        consoleDevice arg = libvirtQemuProvider.serialDevice := by
  rw [validateKernelArgs_eq_ok] at hvalid
  constructor
  · rw [settingsOf, filter_debugKernelArgs _ _ _ (by decide), ← settingsOf, kernelArgs_eq,
      settingsOf_addArg_other (by decide) (by decide) (by decide)]
    obtain ⟨arg, honly, hfrom⟩ := @settingsOf_addArg "root".toList
      libvirtQemuProvider.rootDevice args (by decide) (argsOf_length_le hnodup _)
    rcases hfrom with rfl | ⟨harg, hset⟩
    · exact honly
    · rw [honly, (hvalid arg harg).1 hset]
  · rw [settingsOf, filter_debugKernelArgs _ _ _ (by decide), ← settingsOf, kernelArgs_eq]
    obtain ⟨arg, honly, hfrom⟩ := @settingsOf_addArg "console".toList
      libvirtQemuProvider.serialDevice (addArg args "root".toList libvirtQemuProvider.rootDevice)
      (by decide) (by
        rw [argsOf_addArg_other (by decide) (by decide)]
        exact argsOf_length_le hnodup _)
    refine ⟨arg, honly, ?_⟩
    rcases hfrom with rfl | ⟨harg, hset⟩
    · decide
    · rcases mem_addArg harg with harg | rfl
      · exact (hvalid arg harg).2 hset
      · revert hset
        decide

/-- Merged lists keep what is expected, of kernel arguments and of config lines.  The
kernel splits the command line of an accepted list into the provider's list, in which
`root` and `console` are each there once unless the list has one of them as a flag.
Among the arguments that set a value there is one of each, and it is the provider's. -/
theorem merging_and_command_line (otherDigit : Char → Bool) (repr : Token → String) :
    Merges keyOf (AcceptsArgs repr) mergeKernelArgs ∧
    Merges configSymbol (AcceptsLines repr otherDigit) mergeConfigLines ∧
    ∀ args, AcceptsArgs repr args → ∀ debug,
      let final := (libvirtQemuProvider.debugKernelArgs args debug).1
      SplitsBack final ∧
      (Once "root".toList final ∧ Once "console".toList final ↔
        "root".toList ∉ args ∧ "console".toList ∉ args) ∧
      (libvirtQemuProvider.validateKernelArgs args = .ok () →
        settingsOf "root".toList final =
            [setting "root".toList libvirtQemuProvider.rootDevice] ∧
          ∃ arg, settingsOf "console".toList final = [arg] ∧
            consoleDevice arg = libvirtQemuProvider.serialDevice) := by
  refine ⟨merges_merge fun _ => validateTokens_eq_ok, merges_merge fun _ => validateTokens_eq_ok,
    fun args haccepts debug => ?_⟩
  obtain ⟨hvalid, hnodup⟩ := validateTokens_eq_ok.mp haccepts
  obtain ⟨hroot, hconsole⟩ := once_debugKernelArgs libvirtQemuProvider hnodup debug
  exact ⟨splitsBack_debugKernelArgs hvalid debug, and_congr hroot hconsole,
    fun hprovider => settings_debugKernelArgs hnodup hprovider debug⟩

/-- A profile with the flag `root` passes both validations, and the kernel gets an
argument of that key twice. -/
theorem root_twice :
    AcceptsArgs String.ofList ["root".toList] ∧
      libvirtQemuProvider.validateKernelArgs ["root".toList] = .ok () ∧
      (libvirtQemuProvider.debugKernelArgs ["root".toList] false).1 =
        ["root".toList, "root=/dev/vda".toList, "console=ttyS0".toList] ∧
      ¬ Once "root".toList (libvirtQemuProvider.debugKernelArgs ["root".toList] false).1 ∧
      ¬ AcceptsArgs String.ofList
        (libvirtQemuProvider.debugKernelArgs ["root".toList] false).1 := by
  refine ⟨by rfl, by rfl, by decide, by rw [Once]; decide, ?_⟩
  rw [AcceptsArgs, validateKernelArgTokens, validateTokens_eq_ok]
  decide

end

end Kdive.Args
