import FilterWatch.Event.Table
import FilterWatch.Proofs.TextParts
import Mathlib.Data.List.Forall2

/-! What is seen of a table that has been drawn: under the titles a row for each event, in which the cells of its rule
stand one beside the other. A column has one width in all rows, which is enough for every line in it. -/

namespace FilterWatch

namespace TextTable

/-- A line of the frame, in which nothing is told. -/
structure IsFrame (line : String) : Prop where
  drawn : line ≠ ""
  plain : ∀ c ∈ line.toList, c ∈ ['+', '-', '=', '|']

/-- A text with blanks behind it, so that it fills a column. -/
def Fills (width : Nat) (shown text : String) : Prop :=
  ∃ blanks, text = shown ++ String.ofList (List.replicate blanks ' ') ∧ Text.columns shown.toList + blanks = width

/-- The drawing of a row, its cells in columns of these widths. It has as many lines as the highest cell, and a line of
it shows the line of each cell at its height, or only blanks where a cell is not that high. -/
inductive RowDrawn (widths : List Nat) (cells : List String) : List String → Prop
  | lines {columns : List (Nat × List String)} {drawing : List String} (placed : columns.map Prod.fst = widths)
      (parted : List.Forall₂ (fun cell column => Parted '\n' cell column.2) cells columns)
      (height : (columns.map fun column => column.2.length).max? = some drawing.length)
      (each : ∀ index line, drawing[index]? = some line → ∃ texts,
        List.Forall₂ (fun column text => Fills column.1 (column.2.getD index "") text) columns texts ∧
          line = "| " ++ " | ".intercalate texts ++ " |") : RowDrawn widths cells drawing

/-- The columns are wide enough for the cells of a row. -/
def Covers (row : List String) (widths : List Nat) : Prop :=
  List.Forall₂ (fun cell width => cellWidth cell ≤ width) row widths

theorem Covers.mono {row : List String} {widths wider : List Nat} (covers : Covers row widths)
    (grown : List.Forall₂ (· ≤ ·) widths wider) : Covers row wider := by
  induction covers generalizing wider with
  | nil =>
    cases grown
    exact .nil
  | cons narrow _ ih =>
    cases grown with
    | cons more others => exact .cons (Nat.le_trans narrow more) (ih others)

/-- A row widens the columns as far as it needs. -/
theorem widened {row : List String} {widths : List Nat} (same : row.length = widths.length) :
    List.Forall₂ (· ≤ ·) widths (List.zipWith max widths (row.map cellWidth)) ∧
      Covers row (List.zipWith max widths (row.map cellWidth)) := by
  induction widths generalizing row with
  | nil =>
    rw [List.eq_nil_of_length_eq_zero same]
    exact ⟨.nil, .nil⟩
  | cons width others ih =>
    obtain ⟨cell, rest, rfl⟩ := List.exists_cons_of_length_eq_add_one same
    obtain ⟨grown, covers⟩ := ih (Nat.succ.inj same)
    exact ⟨.cons (Nat.le_max_left _ _) grown, .cons (Nat.le_max_right _ _) covers⟩

/-- Columns that every row widens in turn are wide enough for all of them, and for the rows that were covered before. -/
theorem covers_of_rows {rows : List (List String)} {widths : List Nat}
    (each : ∀ row ∈ rows, row.length = widths.length) (covered : List (List String))
    (before : ∀ row ∈ covered, Covers row widths) : ∀ row ∈ covered ++ rows,
      Covers row (rows.foldl (fun widths row => List.zipWith max widths (row.map cellWidth)) widths) := by
  -- A row that has been passed joins those that are covered, which stay so since no column gets narrower.
  induction rows generalizing widths covered with
  | nil => rwa [List.append_nil]
  | cons row rest ih =>
    obtain ⟨grown, covers⟩ := widened (each row List.mem_cons_self)
    rw [List.foldl_cons, List.append_cons]
    apply ih
    · intro other member
      rw [← grown.length_eq]
      exact each other (List.mem_cons_of_mem row member)
    · intro other member
      rcases List.mem_append.mp member with earlier | last
      · exact (before other earlier).mono grown
      · rw [List.mem_singleton.mp last]
        exact covers

theorem widths_cover {table : TextTable} (square : ∀ row ∈ table.rows, row.length = table.header.length) :
    ∀ row ∈ table.header :: table.rows, Covers row table.widths := by
  have head : Covers table.header (table.header.map cellWidth) := by
    rw [Covers, List.forall₂_map_right_iff, List.forall₂_same]
    exact fun cell _ => Nat.le_refl (cellWidth cell)
  have each : ∀ row ∈ table.rows, row.length = (table.header.map cellWidth).length := by
    rw [List.length_map]
    exact square
  exact covers_of_rows each [table.header] (List.forall_mem_singleton.mpr head)

theorem columns_le_cellWidth (cell : String) (index : Nat) :
    Text.columns ((lines cell).getD index []) ≤ cellWidth cell := by
  have widest : (0 :: (lines cell).map Text.columns).max? = some (cellWidth cell) := List.max?_cons'
  by_cases inside : index < (lines cell).length
  · rw [List.getD_eq_getElem _ _ inside]
    have member := List.mem_map_of_mem (f := Text.columns) (List.getElem_mem inside)
    exact (List.max?_eq_some_iff.mp widest).2 _ (List.mem_cons_of_mem 0 member)
  · rw [List.getD_eq_default _ _ (Nat.le_of_not_lt inside)]
    exact Nat.zero_le _

theorem fills_padded {width : Nat} {cell : String} (wide : cellWidth cell ≤ width) (index : Nat) :
    Fills width (((lines cell).map String.ofList).getD index "") (padded width ((lines cell).getD index [])) := by
  have shown : ((lines cell).map String.ofList).getD index "" = String.ofList ((lines cell).getD index []) :=
    List.getD_map _ [] String.ofList
  rw [shown]
  refine ⟨width - Text.columns ((lines cell).getD index []), rfl, ?_⟩
  rw [String.toList_ofList]
  exact Nat.add_sub_cancel' (Nat.le_trans (columns_le_cellWidth cell index) wide)

/-- A column of a row: its width and the lines of its cell. -/
def column (width : Nat) (cell : String) : Nat × List String := (width, (lines cell).map String.ofList)

theorem columns_laid {row : List String} {widths : List Nat} (covers : Covers row widths) :
    (List.zipWith column widths row).map Prod.fst = widths ∧
    List.Forall₂ (fun cell column => Parted '\n' cell column.2) row (List.zipWith column widths row) ∧
    (List.zipWith column widths row).map (fun column => column.2.length) = (row.map lines).map List.length ∧
    ∀ index, List.Forall₂ (fun column text => Fills column.1 (column.2.getD index "") text)
      (List.zipWith column widths row)
      (List.zipWith (fun width cell => padded width (cell.getD index [])) widths (row.map lines)) := by
  induction covers with
  | nil => exact ⟨rfl, .nil, rfl, fun _ => .nil⟩
  | @cons cell width row widths wide _ ih =>
    obtain ⟨placed, parted, heights, filled⟩ := ih
    refine ⟨congrArg (width :: ·) placed, .cons (parted_splitOn '\n' cell) parted, ?_, ?_⟩
    · exact congrArg₂ List.cons (List.length_map _) heights
    · exact fun index => .cons (fills_padded wide index) (filled index)

theorem rowLines_drawn {row : List String} {widths : List Nat} (covers : Covers row widths) (filled : row ≠ []) :
    RowDrawn widths row (rowLines widths row) := by
  obtain ⟨placed, parted, heights, shown⟩ := columns_laid covers
  refine .lines placed parted ?_ ?_
  · obtain ⟨cell, rest, rfl⟩ := List.exists_cons_of_ne_nil filled
    rw [heights, rowLines, List.length_map, List.length_range, List.map_cons, List.map_cons, List.max?_cons',
      List.foldl_cons, Nat.zero_max]
  · intro index line found
    rw [rowLines, List.getElem?_map] at found
    obtain ⟨place, inside, rfl⟩ := Option.map_eq_some_iff.mp found
    obtain ⟨-, rfl⟩ := List.getElem?_eq_some_iff.mp inside
    rw [List.getElem_range]
    exact ⟨_, shown index, rfl⟩

example : rowLines [1, 2] ["7", "x\nyz"] = ["| 7 | x  |", "|   | yz |"] := by decide +kernel

theorem isFrame_between {ends inside : String} (plain : IsFrame ends)
    (strokes : ∀ c ∈ inside.toList, c ∈ ['+', '-', '=', '|']) : IsFrame (ends ++ inside ++ ends) := by
  refine ⟨?_, ?_⟩
  · intro empty
    obtain ⟨left, -⟩ := String.append_eq_empty_iff.mp empty
    exact plain.drawn (String.append_eq_empty_iff.mp left).1
  · intro c member
    rw [String.toList_append, String.toList_append, List.mem_append, List.mem_append] at member
    rcases member with (left | middle) | right
    · exact plain.plain c left
    · exact strokes c middle
    · exact plain.plain c right

theorem mem_repeated {c other : Char} {count : Nat} (member : c ∈ (repeated other count).toList) : c = other := by
  rw [repeated, String.toList_ofList] at member
  exact List.eq_of_mem_replicate member

theorem isFrame_rule {ends : String} (plain : IsFrame ends) (widths : List Nat) : IsFrame (rule ends widths) := by
  apply isFrame_between plain
  intro c member
  rcases mem_intercalate member with corner | ⟨stroke, inside, there⟩
  · rw [List.mem_singleton.mp corner]
    decide
  · obtain ⟨width, -, rfl⟩ := List.mem_map.mp inside
    rw [mem_repeated there]
    decide

theorem isFrame_corner : IsFrame "+" := ⟨by decide, by simp⟩

theorem isFrame_headerRule (widths : List Nat) : IsFrame (headerRule widths) := by
  apply isFrame_between isFrame_corner
  intro c member
  rw [mem_repeated member]
  decide

end TextTable

inductive Direction.Called : Direction → String → Prop
  | incoming : Called .incoming "In"
  | outgoing : Called .outgoing "Out"

inductive RuleAction.Called : RuleAction → String → Prop
  | allow : Called .allow "Allow"
  | deny : Called .deny "Deny"
  | other : Called .other "Other"

namespace Event

/-- What stands in the cell of a field: what its value is told by, or a dash where there is none. -/
inductive CellOf (tells : α → String → Prop) : Option α → String → Prop
  | told {value : α} {text : String} (telling : tells value text) : CellOf tells (some value) text
  | absent : CellOf tells none "-"

/-- The cells of a rule, in the order of the titles. -/
inductive RowOf (rule : FirewallRule) : List String → Prop
  | cells {direction action target protocol source sourcePort destination destinationPort : String}
      (way : CellOf Direction.Called rule.direction direction) (verdict : CellOf RuleAction.Called rule.action action)
      (raw : CellOf Eq rule.target target) (carried : CellOf Eq rule.protocol protocol)
      (sender : CellOf Eq rule.sourceAddress source) (exit : CellOf Eq rule.sourcePort sourcePort)
      (receiver : CellOf Eq rule.destinationAddress destination)
      (entry : CellOf Eq rule.destinationPort destinationPort) :
      RowOf rule [rule.chain, rule.priority.repr, direction, action, target, protocol, source, sourcePort, destination,
        destinationPort]

/-- A text is the drawing of one row for each event, in their order, below the row of the titles. -/
inductive Drawn (events : List Event) : String → Prop
  | table {widths : List Nat} {top ruler between bottom : String} {titles : List String} {blocks : List (List String)}
      (frame : ∀ line ∈ [top, ruler, between, bottom], TextTable.IsFrame line)
      (head : TextTable.RowDrawn widths ["CHAIN", "PRIORITY", "DIRECTION", "ACTION", "TARGET", "PROTOCOL", "SOURCE",
        "SOURCE PORT", "DESTINATION", "DESTINATION PORT"] titles)
      (rows : List.Forall₂ (fun event block => ∃ cells, RowOf event.rule cells ∧ TextTable.RowDrawn widths cells block)
        events blocks) :
      Drawn events (String.join (([top] ++ titles ++ [ruler] ++ [between].intercalate blocks ++ [bottom]).map
        (· ++ "\n")))

theorem cellOf_text (field : Option String) : CellOf Eq field (field.getD "-") := by
  cases field with
  | none => exact .absent
  | some text => exact .told rfl

theorem cellOf_map {tells : α → String → Prop} {name : α → String} (named : ∀ value, tells value (name value))
    (field : Option α) : CellOf tells field ((field.map name).getD "-") := by
  cases field with
  | none => exact .absent
  | some value => exact .told (named value)

theorem rowOf_tableRow (rule : FirewallRule) : RowOf rule (tableRow rule) := by
  have way (direction : Direction) : direction.Called direction.name := by
    cases direction with
    | incoming => exact .incoming
    | outgoing => exact .outgoing
  have verdict (action : RuleAction) : action.Called action.name := by
    cases action with
    | allow => exact .allow
    | deny => exact .deny
    | other => exact .other
  exact .cells (cellOf_map way _) (cellOf_map verdict _) (cellOf_text _) (cellOf_text _) (cellOf_text _) (cellOf_text _)
    (cellOf_text _) (cellOf_text _)

theorem drawn_table (events : List Event) : Drawn events (table events).text := by
  have rows : (table events).rows = events.map fun event => tableRow event.rule := rfl
  have square : ∀ row ∈ (table events).rows, row.length = (table events).header.length := by
    rw [rows, List.forall_mem_map]
    exact fun _ _ => rfl
  have covers := TextTable.widths_cover square
  have body : List.Forall₂ (fun event block => ∃ cells, RowOf event.rule cells ∧
      TextTable.RowDrawn (table events).widths cells block) events
      ((table events).rows.map (TextTable.rowLines (table events).widths)) := by
    rw [rows, List.forall₂_map_right_iff, List.forall₂_map_right_iff, List.forall₂_same]
    intro event member
    have own : tableRow event.rule ∈ (table events).rows := List.mem_map.mpr ⟨event, member, rfl⟩
    have filled : tableRow event.rule ≠ [] := List.cons_ne_nil _ _
    have wide := covers _ (List.mem_cons_of_mem _ own)
    exact ⟨tableRow event.rule, rowOf_tableRow event.rule, TextTable.rowLines_drawn wide filled⟩
  have edge : TextTable.IsFrame "|" := ⟨by decide, by simp⟩
  have border := TextTable.isFrame_rule TextTable.isFrame_corner (table events).widths
  have frame : ∀ line ∈ [TextTable.rule "+" (table events).widths, TextTable.headerRule (table events).widths,
      TextTable.rule "|" (table events).widths, TextTable.rule "+" (table events).widths], TextTable.IsFrame line := by
    simp only [List.forall_mem_cons, List.not_mem_nil, false_imp_iff, forall_const, and_true]
    exact ⟨border, TextTable.isFrame_headerRule _, TextTable.isFrame_rule edge _, border⟩
  have titles : tableHeader ≠ [] := List.cons_ne_nil _ _
  exact .table frame (TextTable.rowLines_drawn (covers _ List.mem_cons_self) titles) body

end Event

end FilterWatch
