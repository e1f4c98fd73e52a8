import RouteAtlas.Text.CodeText

/-!
# Faults of patterns

Why a text is no pattern, mostly with the place in the text at which it shows.

Most complaints are about a place, and say its line and column too where the text has several lines.
Some only show once the whole pattern is read and name none. A few faults are no complaints, such as
a number that is too large for what it counts; a search does not report these as faults of its
pattern (`SearchFault.isOfPattern`).
-/

namespace RouteAtlas.Pattern

/-- What is wrong with a pattern. -/
inductive Complaint where
  | badEscapeAtEnd
  | badEscape (escape : Text)
  | incompleteEscape (escape : Text)
  | octalTooLarge (escape : Text)
  | missing (what : String)
  | unterminatedName (terminator : Char)
  | undefinedCharacter (name : Text)
  | openGroup
  | sameLookbehind
  | invalidReference (number : Nat)
  | badGroupNumber
  | badGroupName (name : Text)
  | unknownGroup (name : Text)
  | redefinedGroup (name : Text) (number before : Nat)
  | unterminatedSet
  | badRange (first last : Text)
  | boundsReversed
  | nothingToRepeat
  | multipleRepeat
  | unexpectedEnd
  | unknownExtension (what : Text)
  | unterminatedComment
  | unterminatedGroup
  | unbalancedParenthesis
  | tooManyBranches
  | modesNotAtStart
  | localeMode
  | classesExclude
  | unknownMode
  | globalModeOn
  | globalModeOff
  | classModeOff
  | modeOnAndOff
  | unboundedLookbehind
  | templateRepeat (kind : String)
  deriving DecidableEq, Repr

/-- The wording of a complaint. -/
def Complaint.message : Complaint → Text
  | .badEscapeAtEnd => "bad escape (end of pattern)".toList
  | .badEscape escape => "bad escape ".toList ++ escape
  | .incompleteEscape escape => "incomplete escape ".toList ++ escape
  | .octalTooLarge escape =>
    "octal escape value ".toList ++ escape ++ " outside of range 0-0o377".toList
  | .missing what => "missing ".toList ++ what.toList
  | .unterminatedName terminator =>
    "missing ".toList ++ terminator :: ", unterminated name".toList
  | .undefinedCharacter name => "undefined character name ".toList ++ Text.quoted name
  | .openGroup => "cannot refer to an open group".toList
  | .sameLookbehind =>
    "cannot refer to group defined in the same lookbehind subpattern".toList
  | .invalidReference number => "invalid group reference ".toList ++ Text.ofNat number
  | .badGroupNumber => "bad group number".toList
  | .badGroupName name => "bad character in group name ".toList ++ Text.quoted name
  | .unknownGroup name => "unknown group name ".toList ++ Text.quoted name
  | .redefinedGroup name number before =>
    "redefinition of group name ".toList ++ Text.quoted name ++ " as group ".toList
      ++ Text.ofNat number ++ "; was group ".toList ++ Text.ofNat before
  | .unterminatedSet => "unterminated character set".toList
  | .badRange first last => "bad character range ".toList ++ first ++ '-' :: last
  | .boundsReversed => "min repeat greater than max repeat".toList
  | .nothingToRepeat => "nothing to repeat".toList
  | .multipleRepeat => "multiple repeat".toList
  | .unexpectedEnd => "unexpected end of pattern".toList
  | .unknownExtension what => "unknown extension ?".toList ++ what
  | .unterminatedComment => "missing ), unterminated comment".toList
  | .unterminatedGroup => "missing ), unterminated subpattern".toList
  | .unbalancedParenthesis => "unbalanced parenthesis".toList
  | .tooManyBranches => "conditional backref with more than two branches".toList
  | .modesNotAtStart => "global flags not at the start of the expression".toList
  | .localeMode => "bad inline flags: cannot use \x27L\x27 flag with a str pattern".toList
  | .classesExclude =>
    "bad inline flags: flags \x27a\x27, \x27u\x27 and \x27L\x27 are incompatible".toList
  | .unknownMode => "unknown flag".toList
  | .globalModeOn => "bad inline flags: cannot turn on global flag".toList
  | .globalModeOff => "bad inline flags: cannot turn off global flag".toList
  | .classModeOff =>
    "bad inline flags: cannot turn off flags \x27a\x27, \x27u\x27 and \x27L\x27".toList
  | .modeOnAndOff => "bad inline flags: flag turned on and off".toList
  | .unboundedLookbehind => "look-behind requires fixed-width pattern".toList
  | .templateRepeat kind => "internal: unsupported template operator ".toList ++ kind.toList

/-- Why a text is no pattern. -/
inductive Fault where
  /-- A complaint about a place in the text. -/
  | misplaced (complaint : Complaint) (place : Nat)
  /-- A complaint about the pattern as a whole. -/
  | unusable (complaint : Complaint)
  /-- A number of rounds is too large. -/
  | tooManyRounds
  /-- An escape names a number far beyond the last character. -/
  | codeTooLarge
  /-- A number of rounds has too many digits. -/
  | tooManyDigits (count : Nat)
  /-- Two classes of characters are chosen for the whole pattern. -/
  | classesExclude
  deriving DecidableEq, Repr

/-- A place in a text, and its line and column if the text has several lines. -/
def placeText (s : Text) (place : Nat) : Text :=
  let before := s.take place
  let line := before.count '\n' + 1
  let column := (before.reverse.takeWhile (· != '\n')).length + 1
  " at position ".toList ++ Text.ofNat place ++
    if s.contains '\n' then
      " (line ".toList ++ Text.ofNat line ++ ", column ".toList ++ Text.ofNat column ++ [')']
    else []

/-- What is said of a text that is no pattern. -/
def Fault.message (s : Text) : Fault → Text
  | .misplaced complaint place => complaint.message ++ placeText s place
  | .unusable complaint => complaint.message
  | .tooManyRounds => "the repetition number is too large".toList
  | .codeTooLarge => "Python int too large to convert to C int".toList
  | .tooManyDigits count =>
    "Exceeds the limit (4300 digits) for integer string conversion: value has ".toList
      ++ Text.ofNat count
      ++ " digits; use sys.set_int_max_str_digits() to increase the limit".toList
  | .classesExclude => "ASCII and UNICODE flags are incompatible".toList

end RouteAtlas.Pattern
