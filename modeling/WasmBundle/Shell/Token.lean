import WasmBundle.Shell.Syntax

/-!
# Tokens

What the text of a script is read into before commands are made of it, and the errors of reading,
which are told by the names of tokens.
-/

namespace WasmBundle.Shell

inductive Keyword where
  | bang
  | branchOn
  | startBody
  | endBody
  | orIf
  | otherwise
  | endBranches
  | endIf
  | forEach
  | startIf
  | amongItems
  | thenRun
  | untilHolds
  | whileHolds
  | startGroup
  | endGroup
  deriving DecidableEq, Repr

def Keyword.text : Keyword → String
  | .bang => "!"
  | .branchOn => "case"
  | .startBody => "do"
  | .endBody => "done"
  | .orIf => "elif"
  | .otherwise => "else"
  | .endBranches => "esac"
  | .endIf => "fi"
  | .forEach => "for"
  | .startIf => "if"
  | .amongItems => "in"
  | .thenRun => "then"
  | .untilHolds => "until"
  | .whileHolds => "while"
  | .startGroup => "\x7b"
  | .endGroup => "\x7d"

def Keyword.all : List Keyword :=
  [.bang, .branchOn, .startBody, .endBody, .orIf, .otherwise, .endBranches, .endIf, .forEach,
    .startIf, .amongItems, .thenRun, .untilHolds, .whileHolds, .startGroup, .endGroup]

def Keyword.ofText? (text : String) : Option Keyword := Keyword.all.find? (·.text == text)

inductive RedirectionSign where
  | opening (mode : OpenMode)
  | duplicating
  /-- A document that follows in the text, whose leading tabs may be dropped. -/
  | document (dropsTabs : Bool)
  deriving DecidableEq, Repr

inductive Token where
  | endOfInput
  | newline
  | semicolon
  | ampersand
  | andSign
  | orSign
  | pipe
  | opening
  | closing
  | branchEnd
  | word (w : Word)
  | redirection (descriptor : Nat) (sign : RedirectionSign)
  | keyword (k : Keyword)

instance : Inhabited Token := ⟨.endOfInput⟩

def inDoubleQuotes (text : String) : String := "\"" ++ text ++ "\""

/-- How messages name a token. -/
def Token.name : Token → String
  | .endOfInput => "end of file"
  | .newline => "newline"
  | .semicolon => inDoubleQuotes ";"
  | .ampersand => inDoubleQuotes "&"
  | .andSign => inDoubleQuotes "&&"
  | .orSign => inDoubleQuotes "||"
  | .pipe => inDoubleQuotes "|"
  | .opening => inDoubleQuotes "("
  | .closing => inDoubleQuotes ")"
  | .branchEnd => inDoubleQuotes ";;"
  | .word _ => "word"
  | .redirection _ _ => "redirection"
  | .keyword k => inDoubleQuotes k.text

/-- Tokens before which a list of commands ends. -/
def Token.endsList : Token → Bool
  | .endOfInput => true
  | .closing => true
  | .branchEnd => true
  | .keyword k =>
    k ∈ [.startBody, .endBody, .orIf, .otherwise, .endBranches, .endIf, .thenRun, .endGroup]
  | _ => false

inductive SyntaxFault where
  | unexpected (found : Token) (expected : Option Token)
  | unterminatedQuote
  | unterminatedSubstitution
  | missingBrace
  | missingParentheses
  | badLoopVariable
  | badFunctionName
  | badDescriptor
  | tooDeep

def SyntaxFault.message : SyntaxFault → String
  | .unexpected found none => found.name ++ " unexpected"
  | .unexpected found (some t) => found.name ++ " unexpected (expecting " ++ t.name ++ ")"
  | .unterminatedQuote => "Unterminated quoted string"
  | .unterminatedSubstitution => "EOF in backquote substitution"
  | .missingBrace => "Missing " ++ quoted "\x7d"
  | .missingParentheses => "Missing " ++ quoted "))"
  | .badLoopVariable => "Bad for loop variable"
  | .badFunctionName => "Bad function name"
  | .badDescriptor => "Bad fd number"
  | .tooDeep => "Commands nested too deeply"

/-- A fault, and the line it is found in. -/
structure SyntaxError where
  line : Nat
  fault : SyntaxFault

def SyntaxError.message (e : SyntaxError) : String := "Syntax error: " ++ e.fault.message

end WasmBundle.Shell
