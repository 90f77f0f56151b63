import Kdive.Lib.ByteOrder
import Kdive.Lib.Utf8
import Kdive.Safety.SecretRegistry
import Kdive.Seams.Target

/-!
# The names of the registry's files

A target has two files, one for its ownership record and one for its tombstone, and each is first
written under a temporary name.  The names are made of a digest of the target's key, which hashes
both parts of the key behind their lengths.

*Injectivity.*  Keys that are hashed alike are equal (`recoveryPayload_inj`), whatever their parts
hold.  So two targets share a file only if the digest collides.

*Families.*  No listing pattern matches a name of another kind (`recordPattern_iff`,
`tombPattern_iff`).
-/

namespace Kdive.Registry

/-! ## Digests -/

/-- Octets behind their number, in four octets.  A number that does not fit raises. -/
def lengthPrefixed (octets : List Nat) : Option (List Nat) :=
  if octets.length < 256 ^ 4 then
    some ((ByteOrder.write .big 4 octets.length).map UInt8.toNat ++ octets)
  else none

/-- What `recovery_key` hashes. -/
def recoveryPayload (targetKey : TargetKey) : Option (List Nat) := do
  let p ← lengthPrefixed (Utf8.encode targetKey.provisioner.toList)
  let t ← lengthPrefixed (Utf8.encode targetKey.targetId.toList)
  return p ++ t

/-- `hashlib.sha256(payload).hexdigest()` -/
abbrev Sha256 := List Nat → Text

/-- `recovery_key` -/
def recoveryKey (sha256 : Sha256) (targetKey : TargetKey) : Option Text :=
  (recoveryPayload targetKey).map sha256

/-- What stands behind a length can be cut off again. -/
theorem lengthPrefixed_inj {left right : List Nat} {prefixed prefixed' rest rest' : List Nat}
    (hleft : lengthPrefixed left = some prefixed) (hright : lengthPrefixed right = some prefixed')
    (h : prefixed ++ rest = prefixed' ++ rest') : left = right ∧ rest = rest' := by
  unfold lengthPrefixed at hleft hright
  split at hleft
  · split at hright
    · next hl hr =>
        cases hleft
        cases hright
        rw [List.append_assoc, List.append_assoc] at h
        obtain ⟨hwrite, hrest⟩ := List.append_inj h (by simp)
        have hread : ∀ octets : List UInt8, (octets.map UInt8.toNat).map UInt8.ofNat = octets := by
          intro octets
          rw [List.map_map]
          exact (List.map_congr_left fun b _ => UInt8.ofNat_toNat).trans (List.map_id _)
        have hwrite' := congrArg (List.map UInt8.ofNat) hwrite
        rw [hread, hread] at hwrite'
        have hlength := congrArg (ByteOrder.read .big) hwrite'
        rw [ByteOrder.read_write .big hl, ByteOrder.read_write .big hr] at hlength
        exact List.append_inj hrest hlength
    · cases hright
  · cases hleft

theorem encode_inj {left right : Text} (h : Utf8.encode left = Utf8.encode right) : left = right := by
  have := congrArg Utf8.decode h
  rwa [Utf8.decode_encode, Utf8.decode_encode] at this

/-- Keys that are hashed alike are equal. -/
theorem recoveryPayload_inj {k k' : TargetKey} {payload : List Nat}
    (hk : recoveryPayload k = some payload) (hk' : recoveryPayload k' = some payload) : k = k' := by
  obtain ⟨p, hp, hk⟩ := Option.bind_eq_some_iff.mp hk
  obtain ⟨t, ht, hk⟩ := Option.bind_eq_some_iff.mp hk
  obtain ⟨p', hp', hk'⟩ := Option.bind_eq_some_iff.mp hk'
  obtain ⟨t', ht', hk'⟩ := Option.bind_eq_some_iff.mp hk'
  have happend : p ++ t = p' ++ t' := (Option.some.inj hk).trans (Option.some.inj hk').symm
  obtain ⟨hprovisioner, hrest⟩ := lengthPrefixed_inj hp hp' happend
  have hrest' : t ++ [] = t' ++ [] := by rw [hrest]
  obtain ⟨htarget, -⟩ := lengthPrefixed_inj ht ht' hrest'
  have hprovisioner := String.toList_injective (encode_inj hprovisioner)
  have htarget := String.toList_injective (encode_inj htarget)
  cases k
  cases k'
  exact congrArg₂ TargetKey.mk hprovisioner htarget

/-! ## Names -/

/-- `PurePath.suffix`: the last dot and what stands behind it, if the name neither begins nor ends
there. -/
def suffix (name : Text) : Text :=
  let behind := (name.reverse.takeWhile (· ≠ '.')).reverse
  if behind ≠ [] ∧ behind.length + 1 < name.length then '.' :: behind else []

/-- `PurePath.with_suffix` -/
def withSuffix (name new : Text) : Text := name.take (name.length - (suffix name).length) ++ new

/-- Where a file is written before it replaces the one of this name. -/
def tmpName (name : Text) : Text := withSuffix name (suffix name ++ ".tmp".toList)

/-- The file of an ownership record. -/
def recordName (digest : Text) : Text := "owner-".toList ++ (digest ++ ".json".toList)

/-- The file of a tombstone. -/
def tombName (digest : Text) : Text := "tomb-".toList ++ (digest ++ ".json".toList)

/-- The file of the instance lock. -/
def lockName : Text := "instance.lock".toList

theorem suffix_suffix (name : Text) : suffix name <:+ name := by
  unfold suffix
  dsimp only
  split
  · next h =>
      -- the name is what stands before the last dot, the dot and what stands behind
      have hsplit := List.takeWhile_append_dropWhile (p := fun c => decide (c ≠ '.')) (l := name.reverse)
      cases hrest : name.reverse.dropWhile (fun c => decide (c ≠ '.')) with
      | nil =>
          rw [hrest, List.append_nil] at hsplit
          rw [hsplit, List.reverse_reverse] at h
          omega
      | cons c rest =>
          have hdot : c = '.' := by
            have hhead := List.head?_dropWhile_not (fun c => decide (c ≠ '.')) name.reverse
            rw [hrest] at hhead
            simpa using hhead
          subst hdot
          refine ⟨rest.reverse, ?_⟩
          have := congrArg List.reverse hsplit
          rw [hrest, List.reverse_append, List.reverse_cons, List.reverse_reverse,
            List.append_assoc] at this
          exact this
  · exact List.nil_suffix

/-- The temporary name is the name with an ending more. -/
theorem tmpName_eq (name : Text) : tmpName name = name ++ ".tmp".toList := by
  obtain ⟨before, hbefore⟩ := suffix_suffix name
  have hlength : name.length = before.length + (suffix name).length := by
    rw [← List.length_append, hbefore]
  have htake : name.take before.length = before := by
    have : (before ++ suffix name).take before.length = before := List.take_left
    rwa [hbefore] at this
  rw [tmpName, withSuffix, hlength, Nat.add_sub_cancel, htake, ← List.append_assoc, hbefore]

/-! ## Patterns -/

/-- A name that `glob` finds under a pattern with one star. -/
def globMatches (before after name : Text) : Bool :=
  before.isPrefixOf name && after.isSuffixOf name &&
    decide (before.length + after.length ≤ name.length)

/-- `owner-*.json` -/
def recordPattern (name : Text) : Bool := globMatches "owner-".toList ".json".toList name

/-- `tomb-*.json` -/
def tombPattern (name : Text) : Bool := globMatches "tomb-".toList ".json".toList name

theorem globMatches_iff {before after name : Text} :
    globMatches before after name = true ↔ ∃ star, name = before ++ (star ++ after) := by
  constructor
  · intro h
    simp only [globMatches, Bool.and_eq_true, decide_eq_true_eq, List.isPrefixOf_iff_prefix,
      List.isSuffixOf_iff_suffix] at h
    obtain ⟨⟨⟨rest, rfl⟩, hafter⟩, hlength⟩ := h
    rw [List.length_append] at hlength
    obtain ⟨star, rfl⟩ := List.suffix_of_suffix_length_le hafter (List.suffix_append _ _) (by omega)
    exact ⟨star, rfl⟩
  · rintro ⟨star, rfl⟩
    have hafter : after <:+ before ++ (star ++ after) := by
      rw [← List.append_assoc]
      exact List.suffix_append _ _
    simp only [globMatches, Bool.and_eq_true, decide_eq_true_eq, List.isPrefixOf_iff_prefix,
      List.isSuffixOf_iff_suffix, List.length_append]
    exact ⟨⟨List.prefix_append _ _, hafter⟩, by omega⟩

/-- Only the names of records match their pattern. -/
theorem recordPattern_iff {name : Text} :
    recordPattern name = true ↔ ∃ digest, name = recordName digest := globMatches_iff

/-- Only the names of tombstones match their pattern. -/
theorem tombPattern_iff {name : Text} :
    tombPattern name = true ↔ ∃ digest, name = tombName digest := globMatches_iff

theorem recordName_inj {digest digest' : Text} (h : recordName digest = recordName digest') :
    digest = digest' := List.append_cancel_right (List.append_cancel_left h)

theorem tombName_inj {digest digest' : Text} (h : tombName digest = tombName digest') :
    digest = digest' := List.append_cancel_right (List.append_cancel_left h)

theorem tmpName_inj {name name' : Text} (h : tmpName name = tmpName name') : name = name' := by
  rw [tmpName_eq, tmpName_eq] at h
  exact List.append_cancel_right h

theorem recordName_ne_tombName (digest digest' : Text) : recordName digest ≠ tombName digest' := by
  intro h
  exact absurd (List.cons.inj h).1 (by decide)

/-- What ends a name. -/
theorem ends_of_eq {left right : Text} {c d : Char} (h : left ++ [c] = right ++ [d]) : c = d := by
  have := congrArg List.getLast? h
  simpa using this

theorem recordName_ne_tmpName (digest name : Text) : recordName digest ≠ tmpName name := by
  intro h
  rw [tmpName_eq] at h
  have : (("owner-".toList ++ digest) ++ ".jso".toList) ++ ['n'] = (name ++ ".tm".toList) ++ ['p'] := by
    simpa [recordName] using h
  exact absurd (ends_of_eq this) (by decide)

theorem tombName_ne_tmpName (digest name : Text) : tombName digest ≠ tmpName name := by
  intro h
  rw [tmpName_eq] at h
  have : (("tomb-".toList ++ digest) ++ ".jso".toList) ++ ['n'] = (name ++ ".tm".toList) ++ ['p'] := by
    simpa [tombName] using h
  exact absurd (ends_of_eq this) (by decide)

/-! ## Targets -/

/-- The targets have digests, and those of two targets differ. -/
structure Digested (sha256 : Sha256) (targets : TargetKey → Prop) : Prop where
  fits : ∀ k, targets k → (recoveryPayload k).isSome = true
  collisionFree : ∀ k k', targets k → targets k' →
    recoveryKey sha256 k = recoveryKey sha256 k' → recoveryPayload k = recoveryPayload k'

/-- The files of a target. -/
inductive Family where
  | record
  | tomb
deriving DecidableEq, Repr

/-- The name of a target's file. -/
def Family.name : Family → Text → Text
  | .record => recordName
  | .tomb => tombName

theorem Family.name_inj {family family' : Family} {digest digest' : Text}
    (h : family.name digest = family'.name digest') : family = family' ∧ digest = digest' := by
  cases family <;> cases family'
  · exact ⟨rfl, recordName_inj h⟩
  · exact absurd h (recordName_ne_tombName _ _)
  · exact absurd h.symm (recordName_ne_tombName _ _)
  · exact ⟨rfl, tombName_inj h⟩

theorem Family.name_ne_tmpName (family : Family) (digest name : Text) :
    family.name digest ≠ tmpName name := by
  cases family
  · exact recordName_ne_tmpName digest name
  · exact tombName_ne_tmpName digest name

theorem Digested.digest {sha256 : Sha256} {targets : TargetKey → Prop} (h : Digested sha256 targets)
    {k : TargetKey} (hk : targets k) : ∃ digest, recoveryKey sha256 k = some digest := by
  obtain ⟨payload, hpayload⟩ := Option.isSome_iff_exists.mp (h.fits k hk)
  exact ⟨sha256 payload, by rw [recoveryKey, hpayload]; rfl⟩

/-- Targets of one digest are one target. -/
theorem Digested.eq {sha256 : Sha256} {targets : TargetKey → Prop} (h : Digested sha256 targets)
    {k k' : TargetKey} {digest : Text} (hk : targets k) (hk' : targets k')
    (hdigest : recoveryKey sha256 k = some digest) (hdigest' : recoveryKey sha256 k' = some digest) :
    k = k' := by
  obtain ⟨payload, hpayload⟩ := Option.isSome_iff_exists.mp (h.fits k hk)
  have hsame := h.collisionFree k k' hk hk' (hdigest.trans hdigest'.symm)
  exact recoveryPayload_inj hpayload (hsame ▸ hpayload)

end Kdive.Registry
