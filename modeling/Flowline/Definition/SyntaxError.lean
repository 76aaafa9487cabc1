/-!
# Syntax errors

Why a definition line cannot be read, and the column at which that shows.
-/

namespace Flowline

/-- What is wrong with a definition. -/
inductive SyntaxError.Cause where
  | expectedAppName
  | expectedDestinationName
  | expectedCharacter (expected : Char)
  | unexpectedCharacter (found : Char)
  | expectedOptionName
  | missingOptionValue (option : String)
  | unterminatedQuote
  /-- Two pipes between the apps of a stream. -/
  | doublePipeInStream
  /-- Two pipes in a task that are not between the branches of a split. -/
  | doublePipeOutsideSplit
  deriving DecidableEq, Repr, Inhabited

/-- A cause and the column it refers to. -/
structure SyntaxError where
  position : Nat
  cause : SyntaxError.Cause
  deriving DecidableEq, Repr, Inhabited

namespace SyntaxError

def Cause.message : Cause → String
  | expectedAppName => "expected app name"
  | expectedDestinationName => "expected destination name after ':'"
  | expectedCharacter c => "expected '" ++ String.singleton c ++ "'"
  | unexpectedCharacter c => "unexpected character '" ++ String.singleton c ++ "'"
  | expectedOptionName => "expected option name after '--'"
  | missingOptionValue option => "missing value for option '" ++ option ++ "'"
  | unterminatedQuote => "unterminated quoted value"
  | doublePipeInStream => "do not use || between source/processor/sink apps in a stream"
  | doublePipeOutsideSplit => "'||' is only allowed between the branches of a split '<...>'"

/-- The text shown for an error; it ends with the column. -/
def message (e : SyntaxError) : String :=
  e.cause.message ++ ", position " ++ toString e.position

end SyntaxError

end Flowline
