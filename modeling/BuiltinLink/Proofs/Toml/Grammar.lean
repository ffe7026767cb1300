import BuiltinLink.Proofs.Toml.Mentions
import BuiltinLink.Toml.Reader

/-!
The grammar of TOML documents, as relations between what a text says and the text. Nothing here
reads: productions name the texts that may stand for a thing, whatever stands before and behind
them, and the tables of a document are those that its lines define by the rules for mentions. Only
values are taken from the readers: those of digits, the binary number next to a decimal, and the
length of months.

Productions of values are bounded in how deep arrays and braces nest and in how many parts a key
has. The language knows no bounds, so a text is a document if it is one within some bounds.
-/

namespace BuiltinLink.Toml.Grammar

/-! ### Layout -/

def Blanks (t : List Char) : Prop :=
  ∀ c ∈ t, isBlank c

def Newline (t : List Char) : Prop :=
  t = ['\n'] ∨ t = ['\r', '\n']

/-- A comment, or nothing. -/
def Comment (t : List Char) : Prop :=
  t = [] ∨ ∃ u, t = '#' :: u ∧ ∀ c ∈ u, isText c

/-- Blanks and line ends. -/
inductive BlankLines : List Char → Prop
  | nil : BlankLines []
  | blank {c : Char} {t : List Char} (hc : isBlank c) (h : BlankLines t) : BlankLines (c :: t)
  | newline {e t : List Char} (he : Newline e) (h : BlankLines t) : BlankLines (e ++ t)

/-- Blanks, line ends, and comments up to the end of their line. -/
inductive Filler : List Char → Prop
  | nil : Filler []
  | blank {c : Char} {t : List Char} (hc : isBlank c) (h : Filler t) : Filler (c :: t)
  | newline {c e t : List Char} (hc : Comment c) (he : Newline e) (h : Filler t) :
      Filler (c ++ (e ++ t))

/-! ### Strings -/

/-- The escapes of one letter, each with the character it stands for. -/
def letters : List (Char × Char) :=
  [('b', '\x08'), ('t', '\t'), ('n', '\n'), ('f', '\x0c'), ('r', '\r'), ('"', '"'), ('\\', '\\')]

/-- A character and its escape, behind the backslash. -/
inductive Escape : Char → List Char → Prop
  | letter {l c : Char} (h : (l, c) ∈ letters) : Escape c [l]
  | number {u : Char} {t : List Char} {ds : List Nat}
      (hlength : u = 'u' ∧ t.length = 4 ∨ u = 'U' ∧ t.length = 8)
      (ht : t.mapM Text.hexValue? = some ds) (hvalid : (ofDigits 16 ds).isValidChar) :
      Escape (Char.ofNat (ofDigits 16 ds)) (u :: t)

/-- The two kinds of quotes; escapes are read between the first only. -/
inductive Quote : Char → Bool → Prop
  | basic : Quote '"' true
  | literal : Quote '\'' false

/-- What may stand between single quotes, and the text that it is. -/
inductive Single (q : Char) (escapes : Bool) : List Char → List Char → Prop
  | nil : Single q escapes [] []
  | text {c : Char} {cs t : List Char} (hc : isText c) (hq : c ≠ q) (hb : escapes → c ≠ '\\')
      (h : Single q escapes cs t) : Single q escapes (c :: cs) (c :: t)
  | escape {c : Char} {e cs t : List Char} (hescapes : escapes) (he : Escape c e)
      (h : Single q escapes cs t) : Single q escapes (c :: cs) ('\\' :: (e ++ t))

/-- What may stand between triple quotes behind `run` quotes, and the text that it is. Never do
three quotes stand together. A backslash at the end of a line takes away all blanks and line ends up
to the next text. -/
inductive Multiline (q : Char) (escapes : Bool) : Nat → List Char → List Char → Prop
  | nil (run : Nat) : Multiline q escapes run [] []
  | quote {run : Nat} {cs t : List Char} (hrun : run < 2) (h : Multiline q escapes (run + 1) cs t) :
      Multiline q escapes run (q :: cs) (q :: t)
  | text {run : Nat} {c : Char} {cs t : List Char} (hc : isText c) (hq : c ≠ q)
      (hb : escapes → c ≠ '\\') (h : Multiline q escapes 0 cs t) :
      Multiline q escapes run (c :: cs) (c :: t)
  | newline {run : Nat} {e cs t : List Char} (he : Newline e) (h : Multiline q escapes 0 cs t) :
      Multiline q escapes run ('\n' :: cs) (e ++ t)
  | escape {run : Nat} {c : Char} {e cs t : List Char} (hescapes : escapes) (he : Escape c e)
      (h : Multiline q escapes 0 cs t) : Multiline q escapes run (c :: cs) ('\\' :: (e ++ t))
  | join {run : Nat} {b e w cs t : List Char} (hescapes : escapes) (hb : Blanks b) (he : Newline e)
      (hw : BlankLines w) (hmax : ∀ c ∈ t.head?, isBlank c = false ∧ c ≠ '\n' ∧ c ≠ '\r')
      (h : Multiline q escapes 0 cs t) :
      Multiline q escapes run cs ('\\' :: (b ++ (e ++ (w ++ t))))

/-- A string in any of its four forms. Directly behind triple quotes a line end does not count. -/
inductive StringText : List Char → List Char → Prop
  | single {q : Char} {escapes : Bool} {cs t : List Char} (hq : Quote q escapes)
      (h : Single q escapes cs t) : StringText cs (q :: (t ++ [q]))
  | multiline {q : Char} {escapes : Bool} {cs t : List Char} (hq : Quote q escapes)
      (hmax : ∀ c ∈ t.head?, c ≠ '\n' ∧ c ≠ '\r') (h : Multiline q escapes 0 cs t) :
      StringText cs ([q, q, q] ++ (t ++ [q, q, q]))
  | trimmed {q : Char} {escapes : Bool} {e cs t : List Char} (hq : Quote q escapes)
      (he : Newline e) (h : Multiline q escapes 0 cs t) :
      StringText cs ([q, q, q] ++ (e ++ (t ++ [q, q, q])))

/-! ### Keys -/

inductive SimpleKey : String → List Char → Prop
  | bare {t : List Char} (hne : t ≠ []) (h : ∀ c ∈ t, isBare c) : SimpleKey (String.ofList t) t
  | quoted {q : Char} {escapes : Bool} {cs t : List Char} (hq : Quote q escapes)
      (h : Single q escapes cs t) : SimpleKey (String.ofList cs) (q :: (t ++ [q]))

/-- Simple keys with dots between them; blanks may surround each. -/
inductive KeyPath : List String → List Char → Prop
  | last {b t b' : List Char} {k : String} (hb : Blanks b) (ht : SimpleKey k t) (hb' : Blanks b') :
      KeyPath [k] (b ++ (t ++ b'))
  | dot {b t b' u : List Char} {k : String} {ks : List String} (hb : Blanks b)
      (ht : SimpleKey k t) (hb' : Blanks b') (h : KeyPath ks u) :
      KeyPath (k :: ks) (b ++ (t ++ (b' ++ '.' :: u)))

/-! ### Numbers, dates and times -/

/-- At least one digit, with single underscores allowed between two. -/
inductive Digits (digit : Char → Option Nat) : List Nat → List Char → Prop
  | last {c : Char} {d : Nat} (hc : digit c = some d) : Digits digit [d] [c]
  | digit {c : Char} {d : Nat} {ds : List Nat} {t : List Char} (hc : digit c = some d)
      (h : Digits digit ds t) : Digits digit (d :: ds) (c :: t)
  | underscore {c : Char} {d : Nat} {ds : List Nat} {t : List Char} (hc : digit c = some d)
      (h : Digits digit ds t) : Digits digit (d :: ds) (c :: '_' :: t)

/-- Whether a sign is a minus, and the sign, which may be missing. -/
inductive Sign : Bool → List Char → Prop
  | none : Sign false []
  | plus : Sign false ['+']
  | minus : Sign true ['-']

/-- The integral part of a decimal does not begin with a zero, unless it is zero. -/
inductive Whole : List Nat → List Char → Prop
  | zero : Whole [0] ['0']
  | digits {ds : List Nat} {t : List Char} (hzero : t.head? ≠ some '0') (h : Digits digit? ds t) :
      Whole ds t

/-- The digits behind the point, which may be missing. -/
inductive Fraction : List Nat → List Char → Prop
  | none : Fraction [] []
  | digits {ds : List Nat} {t : List Char} (h : Digits digit? ds t) : Fraction ds ('.' :: t)

/-- An integer with the given sign. -/
def signed (minus : Bool) (n : Nat) : Int :=
  if minus then -n else n

/-- The power of ten, which may be missing. -/
inductive Power : Int → List Char → Prop
  | none : Power 0 []
  | digits {l : Char} {minus : Bool} {ds : List Nat} {s t : List Char} (hl : l = 'e' ∨ l = 'E')
      (hs : Sign minus s) (h : Digits digit? ds t) :
      Power (signed minus (ofDigits 10 ds)) (l :: (s ++ t))

/-- An integer fits 64 bits with sign. A float has the value next to its decimal, which is not
infinite unless it is negative. -/
inductive Number : Value → List Char → Prop
  | integer {minus : Bool} {ds : List Nat} {s t : List Char} {v : Value} (hs : Sign minus s)
      (ht : Whole ds t) (hv : integer? (signed minus (ofDigits 10 ds)) = some v) : Number v (s ++ t)
  | based {base : Nat} {l : Char} {ds : List Nat} {t : List Char} {v : Value}
      (hl : (base, l) ∈ [(16, 'x'), (8, 'o'), (2, 'b')]) (ht : Digits (digitBelow? base) ds t)
      (hv : integer? (ofDigits base ds) = some v) : Number v ('0' :: l :: t)
  | float {minus : Bool} {ds fs : List Nat} {e : Int} {s t u p : List Char} {v : Value}
      (hs : Sign minus s) (ht : Whole ds t) (hu : Fraction fs u) (hp : Power e p)
      (hne : u ++ p ≠ []) (hv : float? minus (ofDigits 10 (ds ++ fs)) (e - fs.length) = some v) :
      Number v (s ++ (t ++ (u ++ p)))
  | infinite {minus : Bool} {s : List Char} (hs : Sign minus s) :
      Number (.float (.infinite minus)) (s ++ ['i', 'n', 'f'])
  | nan {minus : Bool} {s : List Char} (hs : Sign minus s) :
      Number (.float .nan) (s ++ ['n', 'a', 'n'])

/-- A number from `low` to `high` in two digits. -/
def TwoDigits (low high n : Nat) (t : List Char) : Prop :=
  ∃ a b x y, t = [a, b] ∧ digit? a = some x ∧ digit? b = some y ∧ n = x * 10 + y ∧ low ≤ n ∧
    n ≤ high

def Date (t : List Char) : Prop :=
  ∃ century year month day c y m d, TwoDigits 0 99 century c ∧ TwoDigits 0 99 year y ∧
    TwoDigits 1 12 month m ∧ TwoDigits 1 (daysIn (century * 100 + year) month) day d ∧
    t = c ++ (y ++ '-' :: (m ++ '-' :: d))

/-- The digits of a second behind the point, which may be missing. -/
def SecondFraction (t : List Char) : Prop :=
  t = [] ∨ ∃ c u, t = '.' :: c :: u ∧ ∀ d ∈ c :: u, d.isDigit

def Time (t : List Char) : Prop :=
  ∃ hour minute second h m s f, TwoDigits 0 23 hour h ∧ TwoDigits 0 59 minute m ∧
    TwoDigits 0 60 second s ∧ SecondFraction f ∧ t = h ++ ':' :: (m ++ ':' :: (s ++ f))

/-- The distance from universal time, which may be missing. -/
def Offset (t : List Char) : Prop :=
  t = [] ∨ t = ['Z'] ∨ t = ['z'] ∨ ∃ sign hour minute h m, (sign = '+' ∨ sign = '-') ∧
    TwoDigits 0 23 hour h ∧ TwoDigits 0 59 minute m ∧ t = sign :: (h ++ ':' :: m)

inductive Datetime : List Char → Prop
  | date {t : List Char} (h : Date t) : Datetime t
  | time {t : List Char} (h : Time t) : Datetime t
  | both {d t o : List Char} {c : Char} (hd : Date d) (hc : c = 'T' ∨ c = 't' ∨ c = ' ')
      (ht : Time t) (ho : Offset o) : Datetime (d ++ c :: (t ++ o))

/-! ### Values -/

/-- A value that holds no others. -/
inductive Scalar : Value → List Char → Prop
  | true : Scalar (.boolean true) ['t', 'r', 'u', 'e']
  | false : Scalar (.boolean false) ['f', 'a', 'l', 's', 'e']
  | string {cs t : List Char} (h : StringText cs t) : Scalar (.string (String.ofList cs)) t
  | number {v : Value} {t : List Char} (h : Number v t) : Scalar v t
  | datetime {t : List Char} (h : Datetime t) : Scalar .datetime t

/-- What may stand between brackets, given what may stand for a value. -/
inductive Items (P : Value → List Char → Prop) : List Value → List Char → Prop
  | nil {f : List Char} (hf : Filler f) : Items P [] f
  | last {v : Value} {f t g : List Char} (hf : Filler f) (ht : P v t) (hg : Filler g) :
      Items P [v] (f ++ (t ++ g))
  | comma {v : Value} {vs : List Value} {f t g u : List Char} (hf : Filler f) (ht : P v t)
      (hg : Filler g) (h : Items P vs u) : Items P (v :: vs) (f ++ (t ++ (g ++ ',' :: u)))

/-- A key of at most `parts` parts, an equals sign and a value. -/
def Pair (parts : Nat) (P : Value → List Char → Prop) (a : Assignment) (t : List Char) : Prop :=
  ∃ k b u, KeyPath (a.path ++ [a.key]) k ∧ a.path.length + 1 ≤ parts ∧ Blanks b ∧ P a.value u ∧
    t = k ++ '=' :: (b ++ u)

/-- The assignments between braces, at least one. -/
inductive Pairs (parts : Nat) (P : Value → List Char → Prop) :
    List Assignment → List Char → Prop
  | last {a : Assignment} {t b : List Char} (ht : Pair parts P a t) (hb : Blanks b) :
      Pairs parts P [a] (t ++ b)
  | comma {a : Assignment} {l : List Assignment} {t b u : List Char} (ht : Pair parts P a t)
      (hb : Blanks b) (h : Pairs parts P l u) : Pairs parts P (a :: l) (t ++ (b ++ ',' :: u))

/-- What may stand between braces, and the table that it defines. -/
def Braces (parts : Nat) (P : Value → List Char → Prop) (v : Value) (t : List Char) : Prop :=
  (v = .table .inline [] ∧ Blanks t) ∨
    ∃ l es, Pairs parts P l t ∧ Defines Standard ⟨l, []⟩ es ∧ v = .table .inline es

/-- A value with arrays and braces nested at most `depth` deep. -/
def ValueText (parts : Nat) : (depth : Nat) → Value → List Char → Prop
  | 0, v, t => Scalar v t
  | depth + 1, v, t =>
    Scalar v t ∨
    (∃ vs u, v = .array .inline vs ∧ t = '[' :: (u ++ [']']) ∧
      Items (ValueText parts depth) vs u) ∨
    ∃ u, t = '\x7b' :: (u ++ ['\x7d']) ∧ Braces parts (ValueText parts depth) v u

/-! ### Documents -/

/-- A line that says something, from its first to its last character that is no blank. -/
inductive LineText (parts depth : Nat) : Line → List Char → Prop
  | assignment {a : Assignment} {t : List Char} (h : Pair parts (ValueText parts depth) a t) :
      LineText parts depth (.assignment a) t
  | header {path : List String} {key : String} {k : List Char} (hk : KeyPath (path ++ [key]) k)
      (hparts : path.length + 1 ≤ parts) :
      LineText parts depth (.header ⟨path, key, false⟩) ('[' :: (k ++ [']']))
  | member {path : List String} {key : String} {k : List Char} (hk : KeyPath (path ++ [key]) k)
      (hparts : path.length + 1 ≤ parts) :
      LineText parts depth (.header ⟨path, key, true⟩) ('[' :: '[' :: (k ++ [']', ']']))

/-- A line, which need not say anything. -/
inductive Expression (parts depth : Nat) : Option Line → List Char → Prop
  | empty {b c : List Char} (hb : Blanks b) (hc : Comment c) : Expression parts depth none (b ++ c)
  | line {l : Line} {b t b' c : List Char} (hb : Blanks b) (ht : LineText parts depth l t)
      (hb' : Blanks b') (hc : Comment c) : Expression parts depth (some l) (b ++ (t ++ (b' ++ c)))

/-- Lines with line ends between them. -/
inductive Lines (parts depth : Nat) : List Line → List Char → Prop
  | last {l : Option Line} {t : List Char} (ht : Expression parts depth l t) :
      Lines parts depth l.toList t
  | newline {l : Option Line} {ls : List Line} {t e u : List Char}
      (ht : Expression parts depth l t) (he : Newline e) (h : Lines parts depth ls u) :
      Lines parts depth (l.toList ++ ls) (t ++ (e ++ u))

/-- A document with this root, by some rules and within bounds. A byte order mark at its beginning
does not count. -/
def DocumentText (rules : List Use → Use → Prop) (parts depth : Nat) (es : Entries)
    (s : List Char) : Prop :=
  ∃ ls t, (s = t ∨ s = '\ufeff' :: t) ∧ Lines parts depth ls t ∧
    Defines rules (Document.ofLines ls) es

/-- A document of the language with this root. -/
def IsDocument (es : Entries) (s : List Char) : Prop :=
  ∃ parts depth, DocumentText Standard parts depth es s

end BuiltinLink.Toml.Grammar
