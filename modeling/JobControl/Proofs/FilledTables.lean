import JobControl.Proofs.Tables
import JobControl.Toml.Document

/-!
# Tables that are filled

A document is read line by line, and every line starts at its outermost
table: the path of the heading above it leads from there to the table that
it changes. What one heading and the fields under it do is therefore seen
best from the table itself. With the rest of the document around it, as a
function of its fields, a change at the end of the path is a change of
these fields (`LeadsTo`), and one path behind another is again such a path
(`LeadsTo.append`).

The lines under a heading then give one new name after the other a value at
the end of this table, and headings of tables in an array add one item
after the other. The names have to be different, and those of the tables
new; this is all that is asked for, and without it the reader refuses.
-/

namespace JobControl.Toml

/-- A path leads to one table of a document: with `inner` in this table, the document is
`fill inner`, and a change at the path is a change of `inner`. -/
def LeadsTo (path : List String) (fill : Fields → Fields) : Prop :=
  ∀ (change : Origin → Fields → Option Fields) (inner : Fields),
    (fill inner).within false change path .heading = (change .heading inner).map fill

variable {before fields inner : Fields} {name list : String} {value : Toml} {path : List String}
  {fill : Fields → Fields} {items : List Toml}

/-! ## Changes at the end of a path -/

namespace Fields

theorem addField_new (h : name ∉ inner.names) :
    inner.addField [name] value = some (inner ++ [(name, value)]) := by
  simp [addField, atLast, within, Entries.lookup_new h]

theorem within_append {dotted : Bool} {change : Origin → Fields → Option Fields}
    {first rest : List String} {origin : Origin} {fields : Fields} :
    fields.within dotted change (first ++ rest) origin
      = fields.within dotted (fun origin fields => fields.within dotted change rest origin) first
          origin := by
  induction first generalizing origin fields with
  | nil => rw [List.nil_append, within.eq_1]
  | cons name first ih =>
      rw [List.cons_append, within, within]
      simp only [ih]

end Fields

/-! ## Paths to a table -/

/-- Into a table with a heading. -/
theorem leadsTo_table (hname : name ∉ before.names) :
    LeadsTo [name] fun inner => before ++ [(name, .table .heading inner)] := by
  intro change inner
  rw [Fields.within, Entries.lookup_concat hname]
  simp [Fields.within, Entries.put_concat hname]

/-- Into the last table of an array. -/
theorem leadsTo_item (hname : name ∉ before.names) :
    LeadsTo [name] fun inner =>
      before ++ [(name, .array true (items ++ [.table .heading inner]))] := by
  intro change inner
  rw [Fields.within, Entries.lookup_concat hname]
  simp [Fields.within, Entries.put_concat hname]

/-- From one table to a table inside of it. -/
theorem LeadsTo.append {rest : List String} {fill' : Fields → Fields} (h : LeadsTo path fill)
    (h' : LeadsTo rest fill') : LeadsTo (path ++ rest) fun inner => fill (fill' inner) := by
  intro change inner
  rw [Fields.within_append, h, h', Option.map_map]
  rfl

/-! ## Lines of a document -/

namespace Document

variable {d : Document} {here : List String} {tables : List Fields}

/-- What becomes of a document with some more statements. -/
def addAll (d : Document) (statements : List Statement) : Option Document :=
  statements.foldlM add d

/-- The statement of a field that stands in the table being filled. -/
def fieldStatement (field : String × Toml) : Statement := .field [field.1] field.2

theorem addAll_append {first rest : List Statement} :
    d.addAll (first ++ rest) = (d.addAll first).bind fun d => d.addAll rest :=
  List.foldlM_append

theorem addAll_step {d' : Document} {statement : Statement} {rest : List Statement}
    (h : d.add statement = some d') : d.addAll (statement :: rest) = d'.addAll rest := by
  rw [addAll, List.foldlM_cons, h]
  rfl

/-- Fields with different names fill a table. -/
theorem addAll_fields (h : LeadsTo path fill) (hnames : (Entries.names (inner ++ fields)).Nodup) :
    addAll ⟨fill inner, path⟩ (fields.map fieldStatement)
      = some ⟨fill (inner ++ fields), path⟩ := by
  induction fields generalizing inner with
  | nil => simp [addAll]
  | cons field fields ih =>
      have hnew : field.1 ∉ inner.names := by
        rw [Entries.names, List.map_append, List.nodup_append] at hnames
        exact fun hmem => hnames.2.2 _ hmem _ (List.mem_cons_self ..) rfl
      have hadd : add ⟨fill inner, path⟩ (fieldStatement field)
          = some ⟨fill (inner ++ [field]), path⟩ := by
        rw [fieldStatement, add, h, Fields.addField_new hnew]
        rfl
      have happend : inner ++ field :: fields = inner ++ [field] ++ fields := by simp
      rw [List.map_cons, addAll_step hadd, ih (happend ▸ hnames), happend]

/-- A heading and fields make a table. -/
theorem addAll_table (here : List String) (hname : name ∉ before.names)
    (hnames : fields.names.Nodup) :
    addAll ⟨before, here⟩ (.table [name] :: fields.map fieldStatement)
      = some ⟨before ++ [(name, .table .heading fields)], [name]⟩ := by
  have hadd : add ⟨before, here⟩ (.table [name])
      = some ⟨before ++ [(name, .table .heading [])], [name]⟩ := by
    simp [add, Fields.addTable, Fields.atLast, Fields.within, Entries.lookup_new hname,
      Entries.put_new hname]
  rw [addAll_step hadd]
  exact addAll_fields (leadsTo_table hname) hnames

/-- The field of an array of tables, which is there as soon as it has an item. -/
def arrayField (list : String) (items : List Toml) : Fields :=
  if items.isEmpty then [] else [(list, .array true items)]

theorem arrayField_concat {item : Toml} :
    arrayField list (items ++ [item]) = [(list, .array true (items ++ [item]))] :=
  if_neg (by simp)

/-- A heading and fields make a table at the end of an array. -/
theorem addAll_item (h : LeadsTo path fill) (hlist : list ∉ inner.names)
    (hnames : fields.names.Nodup) :
    addAll ⟨fill (inner ++ arrayField list items), here⟩
        (.item (path ++ [list]) :: fields.map fieldStatement)
      = some ⟨fill (inner ++ arrayField list (items ++ [.table .heading fields])),
          path ++ [list]⟩ := by
  have hadd : add ⟨fill (inner ++ arrayField list items), here⟩ (.item (path ++ [list]))
      = some ⟨fill (inner ++ arrayField list (items ++ [.table .heading []])),
          path ++ [list]⟩ := by
    rw [add, Fields.addItem, Fields.atLast, List.getLast?_concat, Option.bind_some,
      List.dropLast_concat, h, arrayField_concat]
    cases items with
    | nil => simp [arrayField, Entries.lookup_new hlist, Entries.put_new hlist]
    | cons item items =>
        simp [arrayField, Entries.lookup_concat hlist, Entries.put_concat hlist]
  rw [addAll_step hadd, arrayField_concat, arrayField_concat]
  exact addAll_fields (h.append (leadsTo_item hlist)) hnames

/-- Headings with fields, one after the other, make an array of tables. -/
theorem addAll_items (items : List Toml) (here : List String) (h : LeadsTo path fill)
    (hlist : list ∉ inner.names) (hnames : ∀ fields ∈ tables, fields.names.Nodup) :
    ∃ here', addAll ⟨fill (inner ++ arrayField list items), here⟩
        (tables.flatMap fun fields => .item (path ++ [list]) :: fields.map fieldStatement)
      = some ⟨fill (inner ++ arrayField list (items ++ tables.map (.table .heading))), here'⟩ := by
  induction tables generalizing items here with
  | nil => exact ⟨here, by simp [addAll]⟩
  | cons fields tables ih =>
      obtain ⟨hfields, htables⟩ := List.forall_mem_cons.mp hnames
      obtain ⟨here', hrest⟩ := ih (items ++ [.table .heading fields]) (path ++ [list]) htables
      refine ⟨here', ?_⟩
      rw [List.flatMap_cons, addAll_append, addAll_item h hlist hfields, Option.bind_some, hrest]
      simp

end Document

end JobControl.Toml
