import Tandem.Guest.Pattern
import Tandem.Guest.Tool.Format

/-!
Programs that read text and write text.
-/

namespace Tandem.Guest

open Tandem.Host Tandem.Machine

/-- Lines written out, the last one without its end if the text had none. -/
def relined (source : Raw) (ls : List Raw) : Raw :=
  let out := unlines ls
  if source.isEmpty || source.getLast? == some '\n' then out else out.dropLast

def numbered (k : Nat) : List Raw → List Raw
  | [] => []
  | l :: rest => (padLeft 6 ' ' (digits k) ++ '\t' :: l) :: numbered (k + 1) rest

def cat (j : Job) : Done :=
  let c := Choices.of [] j.arguments
  overFiles j c.operands fun s =>
    if c.has 'n' then relined s (numbered 1 (lines s))
    else if c.has 'E' then relined s ((lines s).map (· ++ ['$']))
    else s

def tac (j : Job) : Done :=
  overFiles j (Choices.of [] j.arguments).operands fun s => unlines (lines s).reverse

def rev (j : Job) : Done :=
  overFiles j (Choices.of [] j.arguments).operands fun s => relined s ((lines s).map List.reverse)

/-- The patterns of `grep`, of which a line has to have one. -/
def grepPatterns (c : Choices) : List Pattern × List Raw :=
  let (sources, files) := match c.allOf 'e' with
    | [] => ((c.operands.take 1).flatMap lines, c.operands.drop 1)
    | given => (given.flatMap lines, c.operands)
  let sources := if sources.isEmpty then [[]] else sources
  let pattern (s : Raw) : Pattern :=
    if c.has 'F' then .ofText (c.has 'i') s else .of (c.has 'E') (c.has 'i') s
  (sources.map pattern, files)

/-- What `grep` writes about the lines of one text. -/
def grepped (c : Choices) (ps : List Pattern) (label : Raw) (s : Raw) : Raw × Bool :=
  let hit (l : Raw) : Bool :=
    (if c.has 'x' then ps.any (·.covers l) else ps.any (·.occurs l)) != c.has 'v'
  let hits := ((lines s).zipIdx 1).filter fun (l, _) => hit l
  let most := ((c.value? 'm').bind number?).getD hits.length
  let hits := hits.take most
  let out :=
    if c.has 'q' then []
    else if c.has 'c' then label ++ digits hits.length ++ ['\n']
    else if c.has 'l' then (if hits.isEmpty then [] else label.dropLast ++ ['\n'])
    else hits.flatMap fun (l, k) =>
      let front := label ++ if c.has 'n' then digits k ++ [':'] else []
      if c.has 'o' then
        (ps.flatMap fun p => p.all l.length (l.length + 1) l).flatMap fun m => front ++ m ++ ['\n']
      else front ++ l ++ ['\n']
  (out, !hits.isEmpty)

def grep (j : Job) : Done :=
  let c := Choices.of ['e', 'm'] j.arguments
  let (ps, files) := grepPatterns c
  let named := (files.length > 1 && !c.has 'h') || c.has 'l'
  let results := (if files.isEmpty then [['-']] else files).map fun file =>
    match contents j [] file with
    | .ok s => (grepped c ps (if named then file ++ [':'] else []) s, [])
    | .error e => (([], false), if c.has 's' then [] else e)
  let errors := results.flatMap Prod.snd
  j.done (results.flatMap fun r => r.1.1) errors <|
    if c.has 'q' && results.any fun r => r.1.2 then 0
    else if !errors.isEmpty then 2
    else if results.any fun r => r.1.2 then 0
    else 1

/-- A line's number in front, as `sort -n` takes it. -/
def leadingInteger (l : Raw) : Int :=
  let l := l.dropWhile fun c => c = ' ' || c = '\t'
  match l with
  | '-' :: r => -(valueOf 10 (r.takeWhile Char.isDigit) : Int)
  | r => valueOf 10 (r.takeWhile Char.isDigit)

/-- A line's fields from the `k`th on. -/
def fieldsFrom (mark : Option Char) (k : Nat) (l : Raw) : Raw :=
  match mark with
  | some m => [m].intercalate ((splitAt m l).drop (k - 1))
  | none =>
    (List.range (k - 1)).foldl
      (fun l _ => (l.dropWhile (· = ' ')).dropWhile (· ≠ ' ')) l

/-- Lines that stand next to their like, each with how often it does. -/
def runsOf : List Raw → List (Raw × Nat)
  | [] => []
  | l :: rest =>
    match runsOf rest with
    | (m, k) :: more => if l = m then (l, k + 1) :: more else (l, 1) :: (m, k) :: more
    | [] => [(l, 1)]

def sort (j : Job) : Done :=
  let c := Choices.of ['k', 't', 'o'] j.arguments
  let key (l : Raw) : Raw :=
    match (c.value? 'k').bind fun k => number? (k.takeWhile Char.isDigit) with
    | some k => fieldsFrom ((c.value? 't').bind List.head?) k l
    | none => l
  let numeric := c.has 'n' || ((c.value? 'k').getD []).contains 'n'
  let before (a b : Raw) : Bool :=
    if numeric then
      leadingInteger (key a) < leadingInteger (key b) ||
        (leadingInteger (key a) == leadingInteger (key b) && precedes a b)
    else precedes (key a) (key b) && (key a != key b || precedes a b)
  let (s, errors) := gathered j (raw "cannot read: ") c.operands
  if !errors.isEmpty then j.done [] errors 2
  else
    let sorted := (lines s).mergeSort before
    let sorted := if c.has 'r' then sorted.reverse else sorted
    j.say (unlines (if c.has 'u' then (runsOf sorted).map Prod.fst else sorted))

def uniq (j : Job) : Done :=
  let c := Choices.of [] j.arguments
  overFiles j (c.operands.take 1) fun s =>
    let runs := (runsOf (lines s)).filter fun (_, k) =>
      (!c.has 'd' || 1 < k) && (!c.has 'u' || k = 1)
    unlines <| runs.map fun (l, k) =>
      if c.has 'c' then padLeft 7 ' ' (digits k) ++ ' ' :: l else l

/-- The number of stretches without blanks. -/
def wordCount (inWord : Bool) : Raw → Nat
  | [] => 0
  | c :: rest =>
    if c = ' ' ∨ c = '\n' ∨ c = '\t' ∨ c = '\r' then wordCount false rest
    else (if inWord then 0 else 1) + wordCount true rest

def wc (j : Job) : Done :=
  let c := Choices.of [] j.arguments
  let all := !(c.has 'l' || c.has 'w' || c.has 'c' || c.has 'm' || c.has 'L')
  let counts (s : Raw) : List Nat :=
    (if all || c.has 'l' then [s.count '\n'] else []) ++
    (if all || c.has 'w' then [wordCount false s] else []) ++
    (if c.has 'm' then [(text s).length] else []) ++
    (if all || c.has 'c' then [s.length] else []) ++
    (if c.has 'L' then [((lines s).map List.length).foldl max 0] else [])
  let results := (if c.operands.isEmpty then [['-']] else c.operands).map fun file =>
    (file, contents j [] file)
  let rows := results.filterMap fun (file, r) => r.toOption.map fun s => (counts s, file)
  let errors := results.flatMap fun (_, r) => match r with | .ok _ => [] | .error e => e
  let total := rows.foldl (fun t (ns, _) => if t.isEmpty then ns else List.zipWith (· + ·) t ns) []
  let rows := if 1 < results.length then rows ++ [(total, raw "total")] else rows
  let width :=
    if c.operands.isEmpty then (if (rows.headD ([], [])).1.length ≤ 1 then 1 else 7)
    else if rows.length ≤ 1 && (rows.headD ([], [])).1.length ≤ 1 then 1
    else (digits ((results.map fun (_, r) => (r.toOption.getD []).length).foldl (· + ·) 0)).length
  let row (ns : List Nat) (file : Raw) : Raw :=
    spaced (ns.map fun n => padLeft width ' ' (digits n)) ++
      (if c.operands.isEmpty then [] else ' ' :: file) ++ ['\n']
  j.done (rows.flatMap fun (ns, file) => row ns file) errors (if errors.isEmpty then 0 else 1)

/-- The first `n` lines. -/
def firstLines : Nat → Raw → Raw
  | 0, _ => []
  | _ + 1, [] => []
  | n + 1, '\n' :: rest => '\n' :: firstLines n rest
  | n + 1, c :: rest => c :: firstLines (n + 1) rest

/-- A number of bytes or lines with the letter of its unit. -/
def sizeOf (r : Raw) : Nat :=
  let ds := r.takeWhile Char.isDigit
  valueOf 10 ds *
    match r.drop ds.length with
    | ['k'] => 1024
    | ['K'] => 1024
    | ['M'] => 1048576
    | ['b'] => 512
    | _ => 1

/-- The options of `head` and `tail`, of which `-5` is short for `-n 5`. -/
def endOptions (arguments : List Raw) : Choices :=
  match arguments with
  | ('-' :: d :: rest) :: more =>
    if d.isDigit then Choices.of ['n', 'c'] (['-', 'n'] :: (d :: rest) :: more)
    else Choices.of ['n', 'c'] arguments
  | _ => Choices.of ['n', 'c'] arguments

/-- What a device gives when so many bytes are asked of it. -/
def deviceBytes (j : Job) (n : Nat) (file : Raw) : Option Raw :=
  match Machine.lookup j.view.root j.view.directory (pathOf file) with
  | .ok (_, .device "null") => none
  | .ok (_, .device _) => some (List.replicate n '\x00')
  | _ => none

/-- Applies `f` to several files, each under a headline of its own. -/
def underTitles (j : Job) (files : List Raw) (quiet : Bool) (f : Raw → Raw → Raw) : Done :=
  let titled := 1 < files.length && !quiet
  let results := (if files.isEmpty then [['-']] else files).map fun file =>
    match contents j [] file with
    | .ok s => (raw "==> " ++ file ++ raw " <==\n", f file s, [])
    | .error _ =>
      ([], [], j.note (raw "cannot open '" ++ file ++ raw "' for reading: No such file or directory"))
  let parts := results.filterMap fun (title, out, err) =>
    if err.isEmpty then some (if titled then title ++ out else out) else none
  let errors := results.flatMap fun (_, _, err) => err
  j.done (if titled then ['\n'].intercalate parts else parts.flatten) errors
    (if errors.isEmpty then 0 else 1)

def head (j : Job) : Done :=
  let c := endOptions j.arguments
  underTitles j c.operands (c.has 'q') fun file s =>
    match c.value? 'c', c.value? 'n' with
    | some ('-' :: n), _ => s.take (s.length - sizeOf n)
    | some n, _ => ((deviceBytes j (sizeOf n) file).getD s).take (sizeOf n)
    | none, some ('-' :: n) => firstLines ((lines s).length - sizeOf n) s
    | none, n => firstLines (sizeOf (n.getD ['1', '0'])) s

def tail (j : Job) : Done :=
  let c := endOptions j.arguments
  underTitles j c.operands (c.has 'q') fun _ s =>
    let ls := lines s
    match c.value? 'c', c.value? 'n' with
    | some ('+' :: n), _ => s.drop (sizeOf n - 1)
    | some n, _ => s.drop (s.length - sizeOf (n.filter (· ≠ '-')))
    | none, some ('+' :: n) => relined s (ls.drop (sizeOf n - 1))
    | none, n =>
      relined s (ls.drop (ls.length - sizeOf ((n.getD ['1', '0']).filter (· ≠ '-'))))

/-- The characters of a set, ranges and classes written out. -/
def spelled : Nat → Raw → Raw
  | 0, _ => []
  | _ + 1, [] => []
  | n + 1, s =>
    match s with
    | '[' :: ':' :: rest =>
      match upTo ':' rest with
      | some (name, ']' :: rest) =>
        ((Glob.classRanges name).flatMap fun (a, b) => range a b) ++ spelled n rest
      | _ => '[' :: spelled n (':' :: rest)
    | a :: '-' :: b :: rest => range a b ++ spelled n rest
    | a :: rest => a :: spelled n rest
    | [] => []
where
  range (a b : Char) : Raw :=
    (List.range (b.toNat + 1 - a.toNat)).map fun k => Char.ofNat (a.toNat + k)

/-- What a character becomes; the last one of a shorter list stands for all that follow. -/
def mapped (sources targets : Raw) (c : Char) : Char :=
  match sources.idxOf? c with
  | none => c
  | some k => (targets[k]?).getD (targets.getLast?.getD c)

/-- Runs of a character of a set made one. -/
def squeezed (set : Char → Bool) : Raw → Raw
  | [] => []
  | c :: rest =>
    match squeezed set rest with
    | d :: more => if c = d && set c then d :: more else c :: d :: more
    | [] => [c]

def tr (j : Job) : Done :=
  let c := Choices.of [] j.arguments
  let set (r : Raw) : Raw :=
    let r := (unescape true (r.length + 1) r).1
    spelled (r.length + 1) r
  let complement := c.has 'c' || c.has 'C'
  match c.operands with
  | [] => j.misused (raw "missing operand") 1
  | a :: more =>
    let sources := set a
    let inSources (x : Char) : Bool := sources.contains x != complement
    if c.has 'd' then
      let out := j.input.filter fun x => !inSources x
      j.say (match c.has 's', more with
        | true, b :: _ => squeezed (set b).contains out
        | _, _ => out)
    else
      match more with
      | [] =>
        if c.has 's' then j.say (squeezed inSources j.input)
        else j.misused (raw "missing operand after " ++ curly a) 1
      | b :: _ =>
        let targets := set b
        let out := j.input.map fun x =>
          if complement then (if inSources x then targets.getLast?.getD x else x)
          else mapped sources targets x
        j.say (if c.has 's' then squeezed targets.contains out else out)

/-- The places that a list such as `1,3-5,7-` names. -/
def inPlaces (list : Raw) (k : Nat) : Bool :=
  (splitAt ',' list).any fun part =>
    match splitAt '-' part with
    | [a] => number? a == some k
    | [a, b] => ((number? a).getD 1 ≤ k) && ((number? b).all (k ≤ ·))
    | _ => false

/-- The items of a list whose places are named. -/
def picked (list : Raw) (items : List Raw) : List Raw :=
  ((items.zipIdx 1).filter fun (_, k) => inPlaces list k).map Prod.fst

def cut (j : Job) : Done :=
  let c := Choices.of ['d', 'f', 'c', 'b'] j.arguments
  let mark := ((c.value? 'd').bind List.head?).getD '\t'
  overFiles j c.operands fun s =>
    unlines <| (lines s).filterMap fun l =>
      match c.value? 'f', (c.value? 'c').or (c.value? 'b') with
      | some f, _ =>
        if l.contains mark then some ([mark].intercalate (picked f (splitAt mark l)))
        else if c.has 's' then none
        else some l
      | none, some f => some (picked f (l.map ([·]))).flatten
      | none, none => some l

/-- Lines that never end. So many are enough for any reader. -/
def yes (j : Job) : Done :=
  let line := if j.arguments.isEmpty then ['y'] else spaced j.arguments
  j.say (unlines (List.replicate (2000000 / (line.length + 1)) line))

/-- Numbers one by one. -/
def seq (j : Job) : Done :=
  let c := Choices.of ['s'] (j.arguments.filter fun a => (integer? a).isNone)
  let range (first step last : Int) : Done :=
    let count := if step = 0 then 0 else ((last - first) / step + 1).toNat
    let items := (List.range count).map fun (k : Nat) => signed (first + k * step)
    match c.value? 's' with
    | some mark =>
      j.say (if items.isEmpty then [] else mark.intercalate items ++ ['\n'])
    | none => j.say (unlines items)
  match (j.arguments.filter fun a => (integer? a).isSome).map fun a => (integer? a).getD 0 with
  | [last] => range 1 1 last
  | [first, last] => range first 1 last
  | [first, step, last] => range first step last
  | _ => j.misused (raw "missing operand") 1

/-- A byte as `od` shows it: a character, or its name, or its number. -/
def byteName (c : Char) : Raw :=
  let code := c.toNat
  match code with
  | 0 => raw "\\0"
  | 7 => raw "\\a"
  | 8 => raw "\\b"
  | 9 => raw "\\t"
  | 10 => raw "\\n"
  | 11 => raw "\\v"
  | 12 => raw "\\f"
  | 13 => raw "\\r"
  | _ => if 0x20 ≤ code && code < 0x7f then [c] else padLeft 3 '0' (Nat.toDigits 8 code)

/-- Sixteen bytes to a row. -/
def rowsOf : Nat → Raw → List Raw
  | 0, _ => []
  | _ + 1, [] => []
  | n + 1, s => s.take 16 :: rowsOf n (s.drop 16)

/-- The rows of `od`. Only the first of several that are alike is shown. -/
def odRows (address : Nat → Raw) (cell : Char → Raw) (before : Option Raw) (starred : Bool)
    (k : Nat) : List Raw → Raw
  | [] => []
  | row :: rest =>
    if before = some row && !rest.isEmpty then
      (if starred then [] else ['*', '\n']) ++ odRows address cell before true (k + row.length) rest
    else
      address k ++ row.flatMap cell ++ '\n' ::
        odRows address cell (some row) false (k + row.length) rest

def od (j : Job) : Done :=
  let c := Choices.of ['A', 't', 'N', 'w', 'j'] j.arguments
  let form := (c.value? 't').getD []
  let address (k : Nat) : Raw :=
    if c.value? 'A' = some ['n'] then [] else padLeft 7 '0' (Nat.toDigits 8 k)
  let cell (x : Char) : Raw :=
    if c.has 'c' || form = ['c'] then padLeft 4 ' ' (byteName x)
    else if form.take 1 = ['x'] then ' ' :: padLeft 2 '0' (Nat.toDigits 16 x.toNat)
    else if form.take 1 = ['u'] || form.take 1 = ['d'] then padLeft 4 ' ' (digits x.toNat)
    else ' ' :: padLeft 3 '0' (Nat.toDigits 8 x.toNat)
  overFiles j c.operands fun s =>
    let s := match c.value? 'N' with
      | some n => s.take (sizeOf n)
      | none => s
    let last := address s.length
    odRows address cell none false 0 (rowsOf (s.length + 1) s) ++
      if last.isEmpty then [] else last ++ ['\n']

def base64Digits : Raw :=
  "ABCDEFGHIJKLMNOPQRSTUVWXYZabcdefghijklmnopqrstuvwxyz0123456789+/".toList

/-- Three bytes as four digits of six bits. -/
def base64 : Raw → Raw
  | a :: b :: c :: rest =>
    let n := a.toNat * 65536 + b.toNat * 256 + c.toNat
    [d (n / 262144), d (n / 4096 % 64), d (n / 64 % 64), d (n % 64)] ++ base64 rest
  | [a, b] =>
    let n := a.toNat * 65536 + b.toNat * 256
    [d (n / 262144), d (n / 4096 % 64), d (n / 64 % 64), '=']
  | [a] =>
    let n := a.toNat * 65536
    [d (n / 262144), d (n / 4096 % 64), '=', '=']
  | [] => []
where
  d (k : Nat) : Char := (base64Digits[k]?).getD 'A'

/-- A text in lines of one length. -/
def wrapped (width : Nat) : Nat → Raw → Raw
  | 0, s => s
  | _ + 1, [] => []
  | n + 1, s => s.take width ++ '\n' :: wrapped width n (s.drop width)

/-- The bytes that digits of six bits stand for. -/
def unbase64 : Raw → Raw
  | a :: b :: rest =>
    let value (c : Char) : Nat := (base64Digits.findIdx? (· == c)).getD 0
    let n := value a * 64 + value b
    match rest with
    | c :: d :: rest =>
      let m := n * 4096 + value c * 64 + value d
      [m / 65536, m / 256 % 256, m % 256].map Char.ofNat ++ unbase64 rest
    | [c] => let m := n * 64 + value c; [m / 1024, m / 4 % 256].map Char.ofNat
    | [] => [Char.ofNat (n / 16)]
  | _ => []

def base64Tool (j : Job) : Done :=
  let c := Choices.of ['w'] j.arguments
  overFiles j c.operands fun s =>
    if c.has 'd' then unbase64 (s.filter base64Digits.contains)
    else
      match c.value? 'w' with
      | some ['0'] => base64 s
      | w => wrapped ((w.bind number?).getD 76) (s.length * 2 + 1) (base64 s)

end Tandem.Guest
