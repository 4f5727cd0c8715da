import TableGraph.Name

/-! # Tokens of type definitions

A document of type definitions is a sequence of names and punctuators. Blanks, commas, byte order
marks and comments up to the end of a line stand between tokens and are passed over; any other
character makes the document unreadable.
-/
namespace TableGraph.Document

inductive Token where
  | name (s : String)
  | punctuator (c : Char)
  deriving DecidableEq

def isIgnored (c : Char) : Bool := c ∈ [' ', '\t', '\n', '\r', ',', Char.ofNat 0xfeff]

def isPunctuator (c : Char) : Bool := c ∈ ['!', '(', ')', '[', ']', ':', '\x7b', '\x7d']

def isLineEnd (c : Char) : Bool := c = '\n' || c = '\r'

/-- The name held back, in reverse, becomes a token when it ends. -/
def closeName (held : List Char) : List Token :=
  if held.isEmpty then [] else [.name (String.ofList held.reverse)]

def tokensFrom? (held : List Char) (comment : Bool) : List Char → Option (List Token)
  | [] => some (closeName held)
  | c :: r =>
    if comment then tokensFrom? [] (!isLineEnd c) r
    else if Name.isPart c && (!held.isEmpty || Name.isStart c) then tokensFrom? (c :: held) false r
    else (closeName held ++ ·) <$>
      if isIgnored c then tokensFrom? [] false r
      else if c = '#' then tokensFrom? [] true r
      else if isPunctuator c then (.punctuator c :: ·) <$> tokensFrom? [] false r
      else none

def tokens? (text : String) : Option (List Token) := tokensFrom? [] false text.toList

end TableGraph.Document
