import Mathlib.Algebra.Ring.Int.Defs
import Mathlib.Data.List.Nodup
import Mathlib.Data.Rat.Defs

/-! # Documents of tables

A document as its lines are written, and the table that it comes to. A table has a key at most once,
no table is opened twice, and an array of tables has its elements one after the other. -/

namespace Toml

inductive Value where
  | string (text : String)
  | integer (n : ℤ)
  | float (q : ℚ)
  | boolean (b : Bool)
  | array (items : List Value)
  | table (entries : List (String × Value))

abbrev Table := List (String × Value)

def keys {α : Type} (entries : List (String × α)) : List String := entries.map Prod.fst

mutual

/-- No table inside the value has a key twice. -/
def Value.distinct : Value → Bool
  | .array items => distinctItems items
  | .table entries => decide (keys entries).Nodup && distinctEntries entries
  | _ => true

def distinctItems : List Value → Bool
  | [] => true
  | item :: items => item.distinct && distinctItems items

def distinctEntries : List (String × Value) → Bool
  | [] => true
  | entry :: entries => entry.2.distinct && distinctEntries entries

end

def Distinct (t : Table) : Prop := (Value.table t).distinct = true

instance (t : Table) : Decidable (Distinct t) := inferInstanceAs (Decidable (_ = true))

inductive Line where
  | header (key : String)
  | element (key : String)
  | entry (key : String) (value : Value)

/-- A header with the entries below it. -/
inductive Block where
  | table (key : String) (entries : Table)
  | element (key : String) (entries : Table)

/-- The entries above the first header, and the blocks. -/
def blocks : List Line → Table × List Block
  | [] => ([], [])
  | .entry key value :: lines => ((key, value) :: (blocks lines).1, (blocks lines).2)
  | .header key :: lines => ([], .table key (blocks lines).1 :: (blocks lines).2)
  | .element key :: lines => ([], .element key (blocks lines).1 :: (blocks lines).2)

/-- What a key stands for so far: only an array that was opened by its elements takes more of them. -/
inductive Node where
  | closed (value : Value)
  | elements (tables : List Table)

def Node.value : Node → Value
  | .closed value => value
  | .elements tables => .array (tables.map .table)

abbrev Nodes := List (String × Node)

def elementsOf (nodes : Nodes) (key : String) : Option (List Table) :=
  match nodes.lookup key with
  | none => some []
  | some (.elements tables) => some tables
  | some (.closed _) => none

def place (nodes : Nodes) : Block → Option Nodes
  | .table key entries =>
    if Distinct entries ∧ key ∉ keys nodes then some (nodes ++ [(key, .closed (.table entries))])
    else none
  | .element key entries =>
    if Distinct entries then
      (elementsOf nodes key).map fun tables =>
        nodes.filter (fun e => e.1 ≠ key) ++ [(key, .elements (tables ++ [entries]))]
    else none

def places (nodes : Nodes) : List Block → Option Nodes
  | [] => some nodes
  | block :: rest => (place nodes block).bind (places · rest)

def Nodes.table (nodes : Nodes) : Table := nodes.map fun e => (e.1, e.2.value)

/-- The table of a document, where it is one. -/
def read (lines : List Line) : Option Table :=
  if Distinct (blocks lines).1 then
    (places ((blocks lines).1.map fun e => (e.1, .closed e.2)) (blocks lines).2).map Nodes.table
  else none

/-! ## Well-formed tables -/

section Distinct

variable {t : Table}

theorem distinctEntries_iff : distinctEntries t = true ↔ ∀ e ∈ t, e.2.distinct = true := by
  induction t with
  | nil => simp [distinctEntries]
  | cons e t ih => simp [distinctEntries, ih]

theorem distinct_iff : Distinct t ↔ (keys t).Nodup ∧ ∀ e ∈ t, e.2.distinct = true := by
  simp [Distinct, Value.distinct, distinctEntries_iff]

theorem Distinct.nodup (h : Distinct t) : (keys t).Nodup := (distinct_iff.mp h).1

theorem distinctItems_iff {items : List Value} :
    distinctItems items = true ↔ ∀ v ∈ items, v.distinct = true := by
  induction items with
  | nil => simp [distinctItems]
  | cons v items ih => simp [distinctItems, ih]

end Distinct

section Keys

variable {α β : Type}

theorem keys_append (s t : List (String × α)) : keys (s ++ t) = keys s ++ keys t := List.map_append

theorem keys_map (f : α → β) (t : List (String × α)) :
    keys (t.map fun e => (e.1, f e.2)) = keys t := by
  simp [keys, List.map_map, Function.comp_def]

theorem lookup_of_not_mem {t : List (String × α)} {key : String} (h : key ∉ keys t) :
    t.lookup key = none := by
  rw [List.lookup_eq_none_iff]
  intro e he
  simp only [bne_iff_ne, ne_eq]
  rintro rfl
  exact h (List.mem_map_of_mem he)

theorem filter_of_not_mem {t : List (String × α)} {key : String} (h : key ∉ keys t) :
    t.filter (fun e => e.1 ≠ key) = t := by
  rw [List.filter_eq_self]
  intro e he
  simp only [ne_eq, decide_eq_true_eq]
  rintro rfl
  exact h (List.mem_map_of_mem he)

end Keys

/-! ## Tables, and one array of them -/

section Written

variable {nodes : Nodes} {tables : List (String × Table)} {elements : List Table} {key : String}

/-- A block for each table. -/
def tableBlocks (tables : List (String × Table)) : List Block := tables.map fun e => .table e.1 e.2

def elementBlocks (key : String) (elements : List Table) : List Block := elements.map (.element key)

theorem places_append (nodes : Nodes) (bs cs : List Block) :
    places nodes (bs ++ cs) = (places nodes bs).bind (places · cs) := by
  induction bs generalizing nodes with
  | nil => rfl
  | cons b bs ih =>
    simp only [List.cons_append, places]
    cases place nodes b with
    | none => rfl
    | some nodes' => exact ih nodes'

theorem places_tables (hd : (keys nodes ++ keys tables).Nodup) (ht : ∀ e ∈ tables, Distinct e.2) :
    places nodes (tableBlocks tables) =
      some (nodes ++ tables.map fun e => (e.1, .closed (.table e.2))) := by
  induction tables generalizing nodes with
  | nil => simp [tableBlocks, places]
  | cons e tables ih =>
    have hfresh : e.1 ∉ keys nodes := by
      intro he
      exact List.disjoint_of_nodup_append hd he (by simp [keys])
    have hrest : (keys (nodes ++ [(e.1, Node.closed (.table e.2))]) ++ keys tables).Nodup := by
      simpa [keys_append, keys] using hd
    simp only [tableBlocks, List.map_cons, places, place]
    rw [if_pos ⟨ht e (by simp), hfresh⟩, Option.bind_some]
    have h := ih hrest (fun e' he' => ht e' (by simp [he']))
    rw [tableBlocks] at h
    rw [h, List.append_assoc, List.singleton_append]

/-- The array is at the end of the document as long as its elements come. -/
theorem places_elements_last {first : List Table} (hkey : key ∉ keys nodes)
    (ht : ∀ t ∈ elements, Distinct t) :
    places (nodes ++ [(key, .elements first)]) (elementBlocks key elements) =
      some (nodes ++ [(key, .elements (first ++ elements))]) := by
  induction elements generalizing first with
  | nil => simp [elementBlocks, places]
  | cons t elements ih =>
    have hof : elementsOf (nodes ++ [(key, Node.elements first)]) key = some first := by
      unfold elementsOf
      rw [List.lookup_append, lookup_of_not_mem hkey, Option.none_or]
      simp
    have hfilter : (nodes ++ [(key, Node.elements first)]).filter (fun e => e.1 ≠ key) = nodes := by
      rw [List.filter_append, filter_of_not_mem hkey]
      simp
    simp only [elementBlocks, List.map_cons, places, place]
    rw [if_pos (ht t (by simp)), hof, Option.map_some, Option.bind_some, hfilter]
    have h : places (nodes ++ [(key, .elements (first ++ [t]))]) (elementBlocks key elements) =
        some (nodes ++ [(key, .elements (first ++ [t] ++ elements))]) :=
      ih fun t' ht' => ht t' (by simp [ht'])
    rw [elementBlocks] at h
    rw [h, List.append_assoc, List.singleton_append]

theorem places_elements (hkey : key ∉ keys nodes) (ht : ∀ t ∈ elements, Distinct t) :
    places nodes (elementBlocks key elements) =
      some (nodes ++ if elements.isEmpty then [] else [(key, .elements elements)]) := by
  cases elements with
  | nil => simp [elementBlocks, places]
  | cons t elements =>
    have hof : elementsOf nodes key = some [] := by
      unfold elementsOf
      rw [lookup_of_not_mem hkey]
    have h : places (nodes ++ [(key, .elements [t])]) (elementBlocks key elements) =
        some (nodes ++ [(key, .elements ([t] ++ elements))]) :=
      places_elements_last hkey fun t' ht' => ht t' (by simp [ht'])
    rw [elementBlocks] at h
    simp only [elementBlocks, List.map_cons, places, place]
    rw [if_pos (ht t (by simp)), hof, Option.map_some, Option.bind_some, filter_of_not_mem hkey,
      List.nil_append, h]
    rfl

end Written

/-! ## A document of tables -/

section Lines

def entryLines (t : Table) : List Line := t.map fun e => .entry e.1 e.2

def tableLines (tables : List (String × Table)) : List Line :=
  tables.flatMap fun e => .header e.1 :: entryLines e.2

def elementLines (key : String) (elements : List Table) : List Line :=
  elements.flatMap fun t => .element key :: entryLines t

variable {tables : List (String × Table)} {elements : List Table} {key : String}

theorem blocks_entryLines (t : Table) (lines : List Line) :
    blocks (entryLines t ++ lines) = (t ++ (blocks lines).1, (blocks lines).2) := by
  induction t with
  | nil => rfl
  | cons e t ih =>
    have h : entryLines (e :: t) ++ lines = .entry e.1 e.2 :: (entryLines t ++ lines) := rfl
    rw [h, blocks, ih]
    rfl

/-- What starts with a header, or is empty. -/
def Headed (lines : List Line) : Prop := (blocks lines).1 = []

theorem blocks_elementLines :
    blocks (elementLines key elements) = ([], elementBlocks key elements) := by
  induction elements with
  | nil => rfl
  | cons t elements ih =>
    have h : elementLines key (t :: elements) =
        .element key :: (entryLines t ++ elementLines key elements) := rfl
    rw [h, blocks, blocks_entryLines, ih, List.append_nil]
    rfl

theorem blocks_tableLines {lines : List Line} (h : Headed lines) :
    blocks (tableLines tables ++ lines) = ([], tableBlocks tables ++ (blocks lines).2) := by
  induction tables with
  | nil => exact Prod.ext h rfl
  | cons e tables ih =>
    have he : tableLines (e :: tables) ++ lines =
        .header e.1 :: (entryLines e.2 ++ (tableLines tables ++ lines)) := by
      simp [tableLines]
    rw [he, blocks, blocks_entryLines, ih, List.append_nil]
    rfl

/-- Tables under different keys, followed by the elements of an array, are read back as they were
written. -/
theorem read_written (hd : (keys tables).Nodup) (hkey : key ∉ keys tables)
    (ht : ∀ e ∈ tables, Distinct e.2) (he : ∀ t ∈ elements, Distinct t) :
    read (tableLines tables ++ elementLines key elements) =
      some (tables.map (fun e => (e.1, .table e.2)) ++
        if elements.isEmpty then [] else [(key, .array (elements.map .table))]) := by
  have hheaded : Headed (elementLines key elements) := congrArg Prod.fst blocks_elementLines
  have hnodes : key ∉ keys (tables.map fun e => (e.1, Node.closed (.table e.2))) := by
    rwa [keys_map fun t => Node.closed (.table t)]
  unfold read
  rw [blocks_tableLines hheaded, blocks_elementLines, if_pos (by simp [distinct_iff, keys]),
    List.map_nil, places_append, places_tables (by simpa [keys] using hd) ht, Option.bind_some,
    List.nil_append, places_elements hnodes he, Option.map_some]
  by_cases hempty : elements.isEmpty
  · simp [Nodes.table, hempty, Node.value]
  · simp [Nodes.table, hempty, Node.value]

end Lines

end Toml
