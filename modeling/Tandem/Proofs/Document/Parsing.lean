import Tandem.Proofs.Document.Grammar
import Tandem.Proofs.Document.Numeral
import Tandem.Proofs.Document.Quoted

/-!
Reading a written document.

* `tokens_compact`, `tokens_prettyAt`: both layouts of a value have the same tokens.
* `symbols_tree`: they are the tokens of the value's own tree.
* `ofText_line`, `ofText_page`: so both layouts are read as one tree.
-/

namespace Tandem.Document

open Tandem.Number

namespace Value

/-! ## The tokens of a value -/

mutual

/-- The tokens that a value is written with. -/
def symbols : Value → List Token
  | null => [.atom (.ok .null) none]
  | bool b => [.atom (.ok (.bool b)) none]
  | int n => [.atom (Spelling.ofInt n).numeral.meaning none]
  | real x => [.atom (Spelling.ofReal x).numeral.meaning none]
  | text s => [.text (.ok s) none]
  | list [] => [.listOpen, .listClose]
  | list (v :: rest) => .listOpen :: (symbols v ++ itemSymbols rest)
  | record [] => [.recordOpen, .recordClose]
  | record ((name, v) :: rest) =>
    .recordOpen :: .text (.ok name) none :: .colon :: (symbols v ++ fieldSymbols rest)

/-- The tokens behind an item of a list, up to its end. -/
def itemSymbols : List Value → List Token
  | [] => [.listClose]
  | v :: rest => .comma :: (symbols v ++ itemSymbols rest)

/-- The tokens behind a field of a record, up to its end. -/
def fieldSymbols : List (String × Value) → List Token
  | [] => [.recordClose]
  | (name, v) :: rest =>
    .comma :: .text (.ok name) none :: .colon :: (symbols v ++ fieldSymbols rest)

end

section
variable {rest : List Char}

theorem tokens_space {c : Char} (h : isSpace c = true) : tokens (c :: rest) = tokens rest := by
  rw [tokens, if_pos h]

theorem tokens_newline (depth : Nat) : tokens (newline depth ++ rest) = tokens rest := by
  have blanks (n : Nat) : tokens (List.replicate n ' ' ++ rest) = tokens rest := by
    induction n with
    | zero => rfl
    | succ n ih => rw [List.replicate_succ, List.cons_append, tokens_space (by decide), ih]
  rw [newline, List.cons_append, tokens_space (by decide), blanks]

/-- The characters that are a token each. -/
inductive Sign : Char → Token → Prop where
  | listOpen : Sign '[' .listOpen
  | listClose : Sign ']' .listClose
  | recordOpen : Sign '\x7b' .recordOpen
  | recordClose : Sign '\x7d' .recordClose
  | comma : Sign ',' .comma
  | colon : Sign ':' .colon

theorem tokens_sign {c : Char} {t : Token} (sign : Sign c t) :
    tokens (c :: rest) = t :: tokens rest := by
  cases sign <;>
    · rw [tokens, if_neg (by decide)]
      rfl

/-- A sign ends a numeral. -/
theorem stops_sign {c : Char} {t : Token} (sign : Sign c t) : Stops (c :: rest) := by
  cases sign <;> exact stops_cons (by decide) (by decide) (by decide)

theorem stops_newline (depth : Nat) : Stops (newline depth ++ rest) :=
  stops_cons (by decide) (by decide) (by decide)

theorem tokens_atom (v : Value) (stops : Stops rest)
    (leaf : (∀ items, v ≠ .list items) ∧ ∀ fields, v ≠ .record fields) :
    tokens (v.atom ++ rest) = v.symbols ++ tokens rest := by
  cases v with
  | null =>
    change tokens ('n' :: 'u' :: 'l' :: 'l' :: rest) = _
    rw [tokens, if_neg (by decide)]
    simp [symbols, Lexeme.of, Lexeme.ofWord, pastWord]
  | bool b =>
    cases b with
    | true =>
      change tokens ('t' :: 'r' :: 'u' :: 'e' :: rest) = _
      rw [tokens, if_neg (by decide)]
      simp [symbols, Lexeme.of, Lexeme.ofWord, pastWord]
    | false =>
      change tokens ('f' :: 'a' :: 'l' :: 's' :: 'e' :: rest) = _
      rw [tokens, if_neg (by decide)]
      simp [symbols, Lexeme.of, Lexeme.ofWord, pastWord]
  | int n =>
    change tokens ((toString n).toList ++ rest) = _
    rw [← Spelling.text_ofInt, Spelling.tokens_text (Spelling.proper_ofInt n) stops]
    rfl
  | real x =>
    change tokens (x.render.toList ++ rest) = _
    rw [← Spelling.text_ofReal, Spelling.tokens_text (Spelling.proper_ofReal x) stops]
    rfl
  | text s =>
    rw [atom, tokens_quote]
    rfl
  | list items => exact absurd rfl (leaf.1 items)
  | record fields => exact absurd rfl (leaf.2 fields)

end

/-! ## The two layouts -/

theorem stops_compactItems (items : List Value) (rest : List Char) :
    Stops (compactItems items ++ ']' :: rest) := by
  cases items with
  | nil => exact stops_sign .listClose
  | cons v items => exact stops_sign .comma

theorem stops_compactFields (fields : List (String × Value)) (rest : List Char) :
    Stops (compactFields fields ++ '\x7d' :: rest) := by
  cases fields with
  | nil => exact stops_sign .recordClose
  | cons field fields => exact stops_sign .comma

mutual

theorem tokens_compact (v : Value) {rest : List Char} (stops : Stops rest) :
    tokens (v.compact ++ rest) = v.symbols ++ tokens rest := by
  match v with
  | null => exact tokens_atom null stops (by simp)
  | bool b => exact tokens_atom (bool b) stops (by simp)
  | int n => exact tokens_atom (int n) stops (by simp)
  | real x => exact tokens_atom (real x) stops (by simp)
  | text s => exact tokens_atom (text s) stops (by simp)
  | list [] =>
    rw [compact, List.cons_append, tokens_sign .listOpen, List.cons_append, List.nil_append,
      tokens_sign .listClose]
    rfl
  | list (v :: items) =>
    simp only [compact, symbols, List.cons_append, List.append_assoc, List.nil_append]
    rw [tokens_sign .listOpen, tokens_compact v (stops_compactItems items rest),
      tokens_compactItems items rest]
  | record [] =>
    rw [compact, List.cons_append, tokens_sign .recordOpen, List.cons_append, List.nil_append,
      tokens_sign .recordClose]
    rfl
  | record ((name, v) :: fields) =>
    simp only [compact, symbols, List.cons_append, List.append_assoc, List.nil_append]
    rw [tokens_sign .recordOpen, tokens_quote, tokens_sign .colon,
      tokens_compact v (stops_compactFields fields rest), tokens_compactFields fields rest]

theorem tokens_compactItems (items : List Value) (rest : List Char) :
    tokens (compactItems items ++ ']' :: rest) = itemSymbols items ++ tokens rest := by
  match items with
  | [] => exact tokens_sign .listClose
  | v :: items =>
    simp only [compactItems, itemSymbols, List.cons_append, List.append_assoc]
    rw [tokens_sign .comma, tokens_compact v (stops_compactItems items rest),
      tokens_compactItems items rest]

theorem tokens_compactFields (fields : List (String × Value)) (rest : List Char) :
    tokens (compactFields fields ++ '\x7d' :: rest) = fieldSymbols fields ++ tokens rest := by
  match fields with
  | [] => exact tokens_sign .recordClose
  | (name, v) :: fields =>
    simp only [compactFields, fieldSymbols, List.cons_append, List.append_assoc]
    rw [tokens_sign .comma, tokens_quote, tokens_sign .colon,
      tokens_compact v (stops_compactFields fields rest), tokens_compactFields fields rest]

end

theorem stops_prettyItems (depth above : Nat) (items : List Value) (rest : List Char) :
    Stops (prettyItems depth items ++ (newline above ++ rest)) := by
  cases items with
  | nil => exact stops_newline above
  | cons v items => exact stops_sign .comma

theorem stops_prettyFields (depth above : Nat) (fields : List (String × Value))
    (rest : List Char) : Stops (prettyFields depth fields ++ (newline above ++ rest)) := by
  cases fields with
  | nil => exact stops_newline above
  | cons field fields => exact stops_sign .comma

mutual

theorem tokens_prettyAt (depth : Nat) (v : Value) {rest : List Char} (stops : Stops rest) :
    tokens (prettyAt depth v ++ rest) = v.symbols ++ tokens rest := by
  match v with
  | null => exact tokens_atom null stops (by simp)
  | bool b => exact tokens_atom (bool b) stops (by simp)
  | int n => exact tokens_atom (int n) stops (by simp)
  | real x => exact tokens_atom (real x) stops (by simp)
  | text s => exact tokens_atom (text s) stops (by simp)
  | list [] =>
    rw [prettyAt, List.cons_append, tokens_sign .listOpen, List.cons_append, List.nil_append,
      tokens_sign .listClose]
    rfl
  | list (v :: items) =>
    simp only [prettyAt, symbols, List.cons_append, List.append_assoc, List.nil_append]
    rw [tokens_sign .listOpen, tokens_newline, tokens_prettyAt (depth + 1) v
      (stops_prettyItems _ _ items _), tokens_prettyItems (depth + 1) depth items rest]
  | record [] =>
    rw [prettyAt, List.cons_append, tokens_sign .recordOpen, List.cons_append, List.nil_append,
      tokens_sign .recordClose]
    rfl
  | record ((name, v) :: fields) =>
    simp only [prettyAt, symbols, List.cons_append, List.append_assoc, List.nil_append]
    rw [tokens_sign .recordOpen, tokens_newline, tokens_quote, tokens_sign .colon,
      tokens_space (by decide), tokens_prettyAt (depth + 1) v (stops_prettyFields _ _ fields _),
      tokens_prettyFields (depth + 1) depth fields rest]

theorem tokens_prettyItems (depth above : Nat) (items : List Value) (rest : List Char) :
    tokens (prettyItems depth items ++ (newline above ++ ']' :: rest)) =
      itemSymbols items ++ tokens rest := by
  match items with
  | [] => exact (tokens_newline above).trans (tokens_sign .listClose)
  | v :: items =>
    simp only [prettyItems, itemSymbols, List.cons_append, List.append_assoc]
    rw [tokens_sign .comma, tokens_newline, tokens_prettyAt depth v
      (stops_prettyItems _ _ items _), tokens_prettyItems depth above items rest]

theorem tokens_prettyFields (depth above : Nat) (fields : List (String × Value))
    (rest : List Char) :
    tokens (prettyFields depth fields ++ (newline above ++ '\x7d' :: rest)) =
      fieldSymbols fields ++ tokens rest := by
  match fields with
  | [] => exact (tokens_newline above).trans (tokens_sign .recordClose)
  | (name, v) :: fields =>
    simp only [prettyFields, fieldSymbols, List.cons_append, List.append_assoc]
    rw [tokens_sign .comma, tokens_newline, tokens_quote, tokens_sign .colon,
      tokens_space (by decide), tokens_prettyAt depth v (stops_prettyFields _ _ fields _),
      tokens_prettyFields depth above fields rest]

end

/-! ## The tree of a value -/

mutual

/-- What a value is read as. A number is read as what its digits stand for. -/
def tree : Value → Tree
  | null => .atom (.ok .null) none
  | bool b => .atom (.ok (.bool b)) none
  | int n => .atom (Spelling.ofInt n).numeral.meaning none
  | real x => .atom (Spelling.ofReal x).numeral.meaning none
  | text s => .text (.ok s) none
  | list items => .list (itemTrees items)
  | record fields => .record (memberTrees fields)

def itemTrees : List Value → Items
  | [] => .closed
  | v :: rest => .cons (tree v) (itemTrees rest)

def memberTrees : List (String × Value) → Members
  | [] => .closed
  | (name, v) :: rest => .cons (.ok name) none (tree v) (memberTrees rest)

end

mutual

theorem symbols_tree (v : Value) : v.tree.symbols = v.symbols := by
  match v with
  | null => rfl
  | bool b => rfl
  | int n => rfl
  | real x => rfl
  | text s => rfl
  | list [] => rfl
  | list (v :: items) =>
    rw [tree, itemTrees, Tree.symbols, Items.symbols, symbols_tree v, symbols_itemTrees items]
    rfl
  | record [] => rfl
  | record ((name, v) :: fields) =>
    rw [tree, memberTrees, Tree.symbols, Members.symbols, symbols_tree v,
      symbols_memberTrees fields]
    rfl

theorem symbols_itemTrees (items : List Value) :
    (itemTrees items).symbols .following = itemSymbols items := by
  match items with
  | [] => rfl
  | v :: items =>
    rw [itemTrees, Items.symbols, symbols_tree v, symbols_itemTrees items]
    rfl

theorem symbols_memberTrees (fields : List (String × Value)) :
    (memberTrees fields).symbols .following = fieldSymbols fields := by
  match fields with
  | [] => rfl
  | (name, v) :: fields =>
    rw [memberTrees, Members.symbols, symbols_tree v, symbols_memberTrees fields]
    rfl

end

/-! ## Nothing is wrong with a value -/

mutual

theorem passing_tree (v : Value) : v.tree.passing = none := by
  match v with
  | null => rfl
  | bool b => rfl
  | int n => rfl
  | real x => rfl
  | text s => rfl
  | list items => exact passing_itemTrees items
  | record fields => exact passing_memberTrees fields

theorem passing_itemTrees (items : List Value) : (itemTrees items).passing = none := by
  match items with
  | [] => rfl
  | v :: items => rw [itemTrees, Items.passing, passing_tree v, passing_itemTrees items]; rfl

theorem passing_memberTrees (fields : List (String × Value)) :
    (memberTrees fields).passing = none := by
  match fields with
  | [] => rfl
  | (name, v) :: fields =>
    rw [memberTrees, Members.passing, passing_tree v, passing_memberTrees fields]
    rfl

end

theorem ofText_of_tokens {v : Value} {text : List Char} (written : tokens text = v.symbols) :
    Tree.ofText text = (v.tree, []) := by
  exact Tree.ofText_of_tokens v.passing_tree (written.trans v.symbols_tree.symm)

section
variable {rest : List Char}

/-- A value on one line is read as its tree, whatever white space follows it. -/
theorem ofText_compact (v : Value) (stops : Stops rest) (blank : tokens rest = []) :
    Tree.ofText (v.compact ++ rest) = (v.tree, []) := by
  apply ofText_of_tokens
  rw [tokens_compact v stops, blank, List.append_nil]

/-- A value on a page is read as its tree, whatever white space follows it. -/
theorem ofText_pretty (v : Value) (stops : Stops rest) (blank : tokens rest = []) :
    Tree.ofText (prettyAt 0 v ++ rest) = (v.tree, []) := by
  apply ofText_of_tokens
  rw [tokens_prettyAt 0 v stops, blank, List.append_nil]

end

theorem ofText_line (v : Value) : Tree.ofText v.line.toList = (v.tree, []) := by
  have read := ofText_compact v stops_nil (by rw [tokens])
  simpa [line] using read

theorem ofText_page (v : Value) : Tree.ofText v.page.toList = (v.tree, []) := by
  have read := ofText_pretty v stops_nil (by rw [tokens])
  simpa [page] using read

end Value

end Tandem.Document
