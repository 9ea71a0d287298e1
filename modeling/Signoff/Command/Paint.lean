/-!
# Painted text

Text for terminals, painted in a colour or a weight by control sequences. Where text inside was
painted and its paint ends, the outer paint is taken up again.
-/

namespace Signoff

/-- A colour or a weight of text. -/
inductive Paint where
  | bold
  | dim
  | red
  | green
  | yellow
  | cyan
deriving DecidableEq, Repr

namespace Paint

/-- The number of a paint in control sequences. -/
def code : Paint → String
  | .bold => "1"
  | .dim => "2"
  | .red => "31"
  | .green => "32"
  | .yellow => "33"
  | .cyan => "36"

/-- The control sequence that begins a paint. -/
def beginning (p : Paint) : List Char := ['\x1b', '['] ++ p.code.toList ++ ['m']

/-- The control sequence that ends all paint. -/
def ending : List Char := ['\x1b', '[', '0', 'm']

/-- The characters with a paint taken up again wherever paint ends. -/
def resume (p : Paint) : List Char → List Char
  | '\x1b' :: '[' :: '0' :: 'm' :: rest => ending ++ p.beginning ++ resume p rest
  | c :: rest => c :: resume p rest
  | [] => []

/-- The text in a paint, if text is painted at all. -/
def apply (p : Paint) (painted : Bool) (text : String) : String :=
  if painted then String.ofList (p.beginning ++ p.resume text.toList ++ ending) else text

end Paint

end Signoff
