/-!
# Faults of expressions in the rich notation

What may be wrong with a written expression, and how it is said.
-/

namespace AddonAtlas.Shell.RichExpression

/-- What is wrong with a written expression. -/
inductive Fault
  | trailingBackslash
  | trailingControl
  | unknownEscape
  | disorderedBounds
  | bigBound
  | openBracket
  | badBracketEscape
  | disorderedRange
  | nothingToRepeat
  | unknownMark
  | bareClass
  | collatingElement
  | openGroup
  | missingGroup
  | openComment
  | closedTwice
  | openCondition
  | unknownLength
  | zeroDistance
  | manyBranches
  | noAssertion
  | noDigit
  | unknownClass
  | bigCode
  | foreignEscape
  | bigCallout
  | openCallout
  | unknownNamedMark
  | openName
  | sameName
  | digitInName
  | malformedProperty
  | unknownProperty
  | longName
  | badRange
  | bigOctal
  | manyDefinitions
  | noOctalBrace
  | badGroupReference
  | openRecursion
  | unknownVerb
  | bigGroup
  | noName
  | badOctal
  | namelessMark
  | badHexadecimal
  | badControl
  | badNameReference
  | lineClassInBracket
  | noCodeDigits
  | badVersion
  | namedCode
  | badHyphen
  | unknownAssertion
  | keepInLook
deriving DecidableEq, Repr

def Fault.message : Fault → String
  | trailingBackslash => "\\ at end of pattern"
  | trailingControl => "\\c at end of pattern"
  | unknownEscape => "unrecognized character follows \\"
  | disorderedBounds => "numbers out of order in \x7b\x7d quantifier"
  | bigBound => "number too big in \x7b\x7d quantifier"
  | openBracket => "missing terminating ] for character class"
  | badBracketEscape => "escape sequence is invalid in character class"
  | disorderedRange => "range out of order in character class"
  | nothingToRepeat => "quantifier does not follow a repeatable item"
  | unknownMark => "unrecognized character after (? or (?-"
  | bareClass => "POSIX named classes are supported only within a class"
  | collatingElement => "POSIX collating elements are not supported"
  | openGroup => "missing closing parenthesis"
  | missingGroup => "reference to non-existent subpattern"
  | openComment => "missing ) after (?# comment"
  | closedTwice => "unmatched closing parenthesis"
  | openCondition => "missing closing parenthesis for condition"
  | unknownLength => "lookbehind assertion is not fixed length"
  | zeroDistance => "a relative value of zero is not allowed"
  | manyBranches => "conditional subpattern contains more than two branches"
  | noAssertion => "assertion expected after (?( or (?(?C)"
  | noDigit => "digit expected after (?+ or (?-"
  | unknownClass => "unknown POSIX class name"
  | bigCode => "character code point value in \\x\x7b\x7d or \\o\x7b\x7d is too large"
  | foreignEscape => "PCRE2 does not support \\F, \\L, \\l, \\N\x7bname\x7d, \\U, or \\u"
  | bigCallout => "number after (?C is greater than 255"
  | openCallout => "closing parenthesis for (?C expected"
  | unknownNamedMark => "unrecognized character after (?P"
  | openName => "syntax error in subpattern name (missing terminator?)"
  | sameName => "two named subpatterns have the same name (PCRE2_DUPNAMES not set)"
  | digitInName => "subpattern name must start with a non-digit"
  | malformedProperty => "malformed \\P or \\p sequence"
  | unknownProperty => "unknown property after \\P or \\p"
  | longName => "subpattern name is too long (maximum 32 code units)"
  | badRange => "invalid range in character class"
  | bigOctal => "octal value is greater than \\377 in 8-bit non-UTF-8 mode"
  | manyDefinitions => "DEFINE subpattern contains more than one branch"
  | noOctalBrace => "missing opening brace after \\o"
  | badGroupReference =>
    "\\g is not followed by a braced, angle-bracketed, or quoted name/number or by a plain number"
  | openRecursion => "(?R (recursive pattern call) must be followed by a closing parenthesis"
  | unknownVerb => "(*VERB) not recognized or malformed"
  | bigGroup => "subpattern number is too big"
  | noName => "subpattern name expected"
  | badOctal => "non-octal character in \\o\x7b\x7d (closing brace missing?)"
  | namelessMark => "(*MARK) must have an argument"
  | badHexadecimal => "non-hex character in \\x\x7b\x7d (closing brace missing?)"
  | badControl => "\\c must be followed by a printable ASCII character"
  | badNameReference => "\\k is not followed by a braced, angle-bracketed, or quoted name"
  | lineClassInBracket => "\\N is not supported in a class"
  | noCodeDigits => "digits missing in \\x\x7b\x7d or \\o\x7b\x7d or \\N\x7bU+\x7d"
  | badVersion => "syntax error or number too big in (?(VERSION condition"
  | namedCode => "\\N\x7bU+dddd\x7d is supported only in Unicode (UTF) mode"
  | badHyphen => "invalid hyphen in option setting"
  | unknownAssertion => "(*alpha_assertion) not recognized"
  | keepInLook =>
    "\\K is not allowed in lookarounds (but see PCRE2_EXTRA_ALLOW_LOOKAROUND_BSK)"

end AddonAtlas.Shell.RichExpression
