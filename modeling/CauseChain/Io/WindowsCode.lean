import CauseChain.Io.Kind

/-!
# Windows error codes

A Windows code is an unsigned 32-bit number with a table of kinds of its own. Its description is
taken from the host, which puts the code, read as a signed number, in parentheses behind the
message: `describe` gives the message back by cutting at the last opening of such a parenthesis.
-/

set_option autoImplicit false

namespace CauseChain

/-- An error code of a Windows system. -/
structure WindowsCode where
  raw : UInt32
  deriving DecidableEq, Repr

namespace WindowsCode

def kinds : List (Nat × Kind) := [
  (2, .notFound),
  (3, .notFound),
  (5, .permissionDenied),
  (8, .outOfMemory),
  (13, .invalidData),
  (14, .outOfMemory),
  (17, .crossesDevices),
  (19, .readOnlyFilesystem),
  (39, .storageFull),
  (50, .unsupported),
  (80, .alreadyExists),
  (87, .invalidInput),
  (109, .brokenPipe),
  (112, .storageFull),
  (120, .unsupported),
  (121, .timedOut),
  (123, .invalidFilename),
  (131, .invalidInput),
  (132, .notSeekable),
  (145, .directoryNotEmpty),
  (170, .resourceBusy),
  (183, .alreadyExists),
  (206, .invalidFilename),
  (223, .fileTooLarge),
  (232, .brokenPipe),
  (258, .timedOut),
  (267, .notADirectory),
  (336, .isADirectory),
  (1131, .deadlock),
  (1142, .tooManyLinks),
  (1295, .quotaExceeded),
  (1460, .timedOut),
  (1921, .filesystemLoop),
  (10004, .interrupted),
  (10013, .permissionDenied),
  (10022, .invalidInput),
  (10035, .wouldBlock),
  (10036, .inProgress),
  (10048, .addrInUse),
  (10049, .addrNotAvailable),
  (10050, .networkDown),
  (10051, .networkUnreachable),
  (10053, .connectionAborted),
  (10054, .connectionReset),
  (10057, .notConnected),
  (10060, .timedOut),
  (10061, .connectionRefused),
  (10065, .hostUnreachable)]

def kind (c : WindowsCode) : Kind := (kinds.lookup c.raw.toNat).getD .other

def signed (c : WindowsCode) : Int := c.raw.toInt32.toInt

def opening : List Char := " (os error ".toList

/-- What stands before the last occurrence of `mark`. -/
def beforeLast? (mark : List Char) : List Char → Option (List Char)
  | [] => none
  | c :: rest =>
    match beforeLast? mark rest with
    | some before => some (c :: before)
    | none => if mark.isPrefixOf (c :: rest) then some [] else none

def message (rendered : String) : String :=
  match beforeLast? opening rendered.toList with
  | some before => String.ofList before
  | none => rendered

/-- The description of a code, from the host's text for its signed reading. -/
def describe (hostMessage : Int → String) (c : WindowsCode) : String :=
  message (hostMessage c.signed)

/-! ## The last occurrence -/

theorem beforeLast?_eq_none {mark cs : List Char} (absent : ¬ mark <:+: cs) :
    beforeLast? mark cs = none := by
  induction cs with
  | nil => rfl
  | cons c rest ih =>
    obtain ⟨hfront, hrest⟩ := not_or.mp (mt List.infix_cons_iff.mpr absent)
    rw [beforeLast?, ih hrest]
    exact if_neg (mt List.isPrefixOf_iff_prefix.mp hfront)

/-- An occurrence is the last one if the mark does not occur from its second character on. -/
theorem beforeLast?_append {c : Char} {cs after : List Char}
    (last : ¬ (c :: cs) <:+: cs ++ after) (before : List Char) :
    beforeLast? (c :: cs) (before ++ (c :: cs ++ after)) = some before := by
  induction before with
  | nil =>
    rw [List.nil_append, List.cons_append, beforeLast?, beforeLast?_eq_none last]
    exact if_pos (List.isPrefixOf_iff_prefix.mpr (List.prefix_append (c :: cs) after))
  | cons d rest ih => rw [List.cons_append, beforeLast?, ih]

end WindowsCode

end CauseChain
