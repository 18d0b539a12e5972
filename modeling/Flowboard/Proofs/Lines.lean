import Flowboard.Proofs.Layout
import Flowboard.Proofs.Naming

/-! The lines of programs: which line a print node has, and which lines scripts may have. -/
namespace Flowboard

open Canvas Relation Script

variable {nodes order before rest : List Node} {connections : List Connection} {a b n : Node}
  {bindings mid last : Table String} {statements : List Statement} {visit : List Nat} {i j : Nat}
  {w : Workflow} {strategy : Strategy} {p : Program} {x value : String}

theorem Topological.transGen (h : Topological nodes connections visit)
    (hp : TransGen (Link nodes connections) i j) : visit.idxOf i < visit.idxOf j := by
  have hlink : ∀ i j, Link nodes connections i j → visit.idxOf i < visit.idxOf j := by
    rintro i j ⟨c, hc, hi, hj⟩
    obtain ⟨i', j', hi', hj', hlt⟩ := h.along c hc
    rwa [hi.unique hi', hj.unique hj']
  induction hp with
  | single hl => exact hlink _ _ hl
  | tail _ hl ih => exact Nat.lt_trans ih (hlink _ _ hl)

theorem dependencyOrder_topological (h : dependencyOrder nodes connections = .ok order) :
    ∃ visit, order.map some = visit.map (nodes[·]?) ∧ Topological nodes connections visit := by
  obtain ⟨es, ranks, hes, hlinear, -, horder⟩ := dependencyOrder_eq_ok h
  have hlt : ∀ r ∈ ranks, r < nodes.length := fun r hr => by
    simpa using hlinear.perm.mem_iff.mp hr
  exact ⟨_, horder, (linear_iff_topological hes hlt).mp hlinear⟩

theorem mem_of_idxOf_lt {first later : List Nat}
    (h : (first ++ j :: later).idxOf i < (first ++ j :: later).idxOf j) : i ∈ first := by
  by_contra hi
  have hj : (first ++ j :: later).idxOf j ≤ first.length := by
    by_cases hm : j ∈ first
    · rw [List.idxOf_append_of_mem hm]
      exact List.idxOf_le_length
    · rw [List.idxOf_append_of_notMem hm, List.idxOf_cons_self, Nat.add_zero]
  rw [List.idxOf_append_of_notMem hi] at h
  omega

/-- Where ids are not shared, a node stands after all nodes that lead to it. -/
theorem mem_of_joined (hids : (nodes.map (·.id)).Nodup)
    (h : dependencyOrder nodes connections = .ok (before ++ b :: rest)) (ha : a ∈ nodes)
    (hp : TransGen (Joined connections) a.id b.id) : a ∈ before := by
  obtain ⟨visit, hvisit, htopological⟩ := dependencyOrder_topological h
  rw [List.map_append, List.map_cons] at hvisit
  obtain ⟨first, others, rfl, hfirst, hothers⟩ := List.map_eq_append_iff.mp hvisit.symm
  obtain ⟨j, later, rfl, hj, -⟩ := List.map_eq_cons_iff.mp hothers
  obtain ⟨i, hi⟩ := List.mem_iff_getElem?.mp ha
  have hattached := (dependencyOrder_eq_ok_iff.mp ⟨_, h⟩).1
  have hlink := (transGen_link_iff_joined hattached).mpr
    ⟨_, _, denotes_of_nodup hids hi, denotes_of_nodup hids hj, hp⟩
  have hfront := mem_of_idxOf_lt (htopological.transGen hlink)
  have hsome := List.mem_map_of_mem (f := (nodes[·]?)) hfront
  rw [hfirst, hi] at hsome
  simpa using hsome

theorem Emits.split (h : Emits bindings (before ++ rest) statements last) :
    ∃ earlier later mid, statements = earlier ++ later ∧ Emits bindings before earlier mid ∧
      Emits mid rest later last := by
  induction before generalizing bindings statements with
  | nil => exact ⟨[], statements, bindings, rfl, .nil, h⟩
  | cons n before ih =>
    cases h with
    | assign kind valid more =>
      obtain ⟨earlier, later, mid, rfl, hearlier, hlater⟩ := ih more
      exact ⟨_ :: earlier, later, mid, rfl, .assign kind valid hearlier, hlater⟩
    | printName kind bound more =>
      obtain ⟨earlier, later, mid, rfl, hearlier, hlater⟩ := ih more
      exact ⟨_ :: earlier, later, mid, rfl, .printName kind bound hearlier, hlater⟩
    | printText kind free more =>
      obtain ⟨earlier, later, mid, rfl, hearlier, hlater⟩ := ih more
      exact ⟨_ :: earlier, later, mid, rfl, .printText kind free hearlier, hlater⟩
    | other kind more =>
      obtain ⟨earlier, later, mid, rfl, hearlier, hlater⟩ := ih more
      exact ⟨earlier, later, mid, rfl, .other kind hearlier, hlater⟩

/-- A message is printed as a name behind a node that gives the name a value. -/
theorem Emits.printName_of_mem (h : Emits bindings (b :: rest) statements last)
    (hb : Bound bindings before) (ha : a ∈ before) (hassign : a.kind = .assign x value)
    (hprint : b.kind = .print x) :
    ∃ more, statements = .printName x :: more ∧ Emits bindings rest more last := by
  have hbound : bindings.contains x := by
    rw [Table.contains_eq_isSome, hb.value, lastValue_isSome_iff]
    exact ⟨a, ha, value, hassign⟩
  cases h with
  | assign kind valid more => simp [hprint] at kind
  | printName kind bound more =>
    obtain rfl : x = _ := by simpa [hprint] using kind
    exact ⟨_, rfl, more⟩
  | printText kind free more =>
    obtain rfl : x = _ := by simpa [hprint] using kind
    simp [hbound] at free
  | other kind more => simp [hprint] at kind

/-- A node and the line that it has in a program along an order of nodes: the nodes on either side
of it have the lines on either side. -/
structure Program.HasLine (p : Program) (before : List Node) (n : Node) (after : List Node)
    (line : List Char) : Prop where
  sides : ∃ earlier statement later, p.statements = earlier ++ statement :: later ∧
    List.Forall₂ Node.Intends (before.filter Node.acts) earlier ∧ n.Intends statement ∧
    List.Forall₂ Node.Intends (after.filter Node.acts) later
  line : (Straight.lines p.source.toList)[(before.filter Node.acts).length + 1]? = some line

/-- Connections carry variables: behind a chain of connections from a node that gives its message a
value, a print node prints the variable and not the message. -/
theorem chained_print_has_reference (hids : (w.nodes.map (·.id)).Nodup)
    (h : w.compile .dependency = .ok p) (ha : a ∈ w.nodes) (hb : b ∈ w.nodes)
    (hassign : a.kind = .assign x value) (hprint : b.kind = .print x)
    (hchain : TransGen (Joined w.connections) a.id b.id) :
    ∃ order, w.ordered .dependency = .ok order ∧ b ∈ order ∧
      ∀ before after, order = before ++ b :: after →
        p.HasLine before b after ("print(" ++ x ++ ")").toList ∧
        ¬ p.HasLine before b after ("print(\"" ++ x ++ "\")").toList := by
  obtain ⟨order, horder, -, hemits⟩ := compile_eq_ok h
  refine ⟨order, horder, (ordered_perm horder).mem_iff.mpr hb, fun before after hs => ?_⟩
  subst hs
  have hmem := mem_of_joined hids horder ha hchain
  obtain ⟨earlier, later, mid, hstatements, hearlier, hlater⟩ := hemits.split
  have hmid : Bound mid before := by simpa using hearlier.bound bound_nil
  obtain ⟨more, rfl, hmore⟩ := hlater.printName_of_mem hmid hmem hassign hprint
  have hline : (Straight.lines p.source.toList)[(before.filter Node.acts).length + 1]? =
      some ("print(" ++ x ++ ")").toList := by
    rw [hearlier.intended.length_eq, lines_source (hemits.named bound_nil), hstatements]
    simp [text_printName]
  refine ⟨⟨⟨earlier, _, more, hstatements, hearlier.intended, hprint, hmore.intended⟩, hline⟩,
    fun hliteral => ?_⟩
  have hsame := congrArg (Option.map List.length) (hliteral.line.symm.trans hline)
  simp at hsame

/-- The nodes stand on the canvas from the last one of the chain to the first. -/
theorem chained_print_has_reference_upward : ∃ first middle last p,
    (chained [lower, upper]).nodes = [last, middle, first] ∧
    (chained [lower, upper]).compile .dependency = .ok p ∧
    p.HasLine [first, middle] last [] "print(x)".toList := by
  have hp : (chained [lower, upper]).compile .dependency =
      .ok ⟨[.assign "x" "soon", .assign "x" "late", .printName "x"], ["first", "middle", "last"],
        [("x", "late")]⟩ := by cbv
  have hchain : TransGen (Joined [lower, upper]) "first" "last" :=
    .tail (.single ⟨lower, by simp, rfl, rfl⟩) ⟨upper, by simp, rfl, rfl⟩
  obtain ⟨order, horder, -, hline⟩ := chained_print_has_reference (by decide) hp
    (List.mem_of_getElem? (i := 2) rfl) (List.mem_of_getElem? (i := 0) rfl) rfl rfl hchain
  obtain rfl : (chained []).nodes.reverse = order :=
    Except.ok.inj ((by cbv : _ = (chained [lower, upper]).ordered .dependency).trans horder)
  exact ⟨_, _, _, _, rfl, hp, (hline _ _ rfl).1⟩

/-- A name of letters, digits and underscores, with no digit at its start, that the language does
not keep for itself. -/
structure Bindable (kept : List String) (name : String) : Prop where
  chars : ∀ c ∈ name.toList, Straight.isNameChar c
  start : ∃ c ∈ name.toList.head?, c.isDigit = false
  free : name ∉ kept

/-- A text between quotes in which each escape makes a character. -/
structure IsLiteral (s : List Char) : Prop where
  scanned : ∃ body text, s = '"' :: body ∧ scan '"' body = some (text, [])
  printable : ∀ c ∈ s, 32 ≤ c.toNat

/-- The lines that scripts may have: assignments and print calls. -/
inductive AcceptedLine (kept : List String) : List Char → Prop
  | assign {name literal} (bindable : Bindable kept name) (harmless : name ≠ "print")
      (wellFormed : IsLiteral literal) : AcceptedLine kept (name.toList ++ " = ".toList ++ literal)
  | printName {name} (bindable : Bindable kept name) :
      AcceptedLine kept ("print(".toList ++ name.toList ++ [')'])
  | printText {literal} (wellFormed : IsLiteral literal) :
      AcceptedLine kept ("print(".toList ++ literal ++ [')'])

/-- The name in a statement. -/
def Statement.name? : Statement → Option String
  | assign name _ => some name
  | printName name => some name
  | printText _ => none

theorem isLiteral_quote (text : String) : IsLiteral (Text.quote text) :=
  ⟨⟨_, _, rfl, scan_escaped text.toList []⟩, fun _ => le_of_mem_quote⟩

/-- A name that nodes may give a value to can be bound, and it does not hide the function that
prints. -/
theorem bindable_of_isIdentifier {name : String} (h : isIdentifier name) :
    Bindable keywords name ∧ name ≠ "print" := by
  rw [← isPlainName_eq_isIdentifier] at h
  simp only [Straight.isPlainName, Bool.and_eq_true, List.all_eq_true, Option.any_eq_true,
    Bool.not_eq_true', List.contains_eq_mem, decide_eq_false_iff_not, bne_iff_ne] at h
  obtain ⟨⟨⟨hchars, hstart⟩, hfree⟩, hprint⟩ := h
  exact ⟨⟨hchars, hstart, hfree⟩, hprint⟩

theorem isIdentifier_of_named {statement : Statement} {name : String} (h : Named statement)
    (hname : name ∈ statement.name?) : isIdentifier name := by
  cases statement with
  | assign other value =>
    obtain rfl := Option.some.inj hname
    exact h
  | printName other =>
    obtain rfl := Option.some.inj hname
    exact h
  | printText text => cases hname

/-- A statement whose name can be bound has a line that is accepted, unless the name is kept. -/
theorem accepted_of_named {statement : Statement} {kept : List String} (h : Named statement)
    (hfree : ∀ name ∈ statement.name?, name ∉ kept) : AcceptedLine kept statement.text := by
  cases statement with
  | assign name value =>
    obtain ⟨hbindable, hprint⟩ := bindable_of_isIdentifier h
    exact .assign { hbindable with free := hfree name rfl } hprint (isLiteral_quote value)
  | printName name =>
    exact .printName { (bindable_of_isIdentifier h).1 with free := hfree name rfl }
  | printText text => exact .printText (isLiteral_quote text)

theorem takeWhile_print (s : List Char) :
    ("print(".toList ++ s).takeWhile Straight.isNameChar = "print".toList := by
  simp [Straight.isNameChar, List.takeWhile]

/-- The name of an assignment can be told from its line. -/
theorem notMem_of_accepted {name : String} {kept : List String} (hname : isIdentifier name)
    (h : AcceptedLine kept (Statement.assign name value).text) : name ∉ kept := by
  have hspace : Straight.isNameChar ' ' = false := by decide
  have htake : (Statement.assign name value).text.takeWhile Straight.isNameChar = name.toList := by
    simpa [text_assign] using takeWhile_name (s := '=' :: ' ' :: Text.quote value) hname hspace
  generalize (Statement.assign name value).text = line at h htake
  have hcall (s : List Char) : ("print(".toList ++ s).takeWhile Straight.isNameChar ≠ name.toList :=
    fun he => (bindable_of_isIdentifier hname).2
      (String.toList_inj.mp ((takeWhile_print s).symm.trans he)).symm
  cases h with
  | @assign other literal bindable harmless wellFormed =>
    rw [List.append_assoc, List.takeWhile_append_of_pos bindable.chars] at htake
    obtain rfl : other = name := by simpa [hspace, String.toList_inj] using htake
    exact bindable.free
  | printName bindable =>
    rw [List.append_assoc] at htake
    exact absurd htake (hcall _)
  | printText wellFormed =>
    rw [List.append_assoc] at htake
    exact absurd htake (hcall _)

/-- All names in the statements of nodes are names that nodes give values to. -/
theorem Emits.assigned (h : Emits bindings nodes statements last) (hb : Bound bindings before) :
    ∀ statement ∈ statements, ∀ name ∈ statement.name?,
      ∃ n ∈ before ++ nodes, ∃ value, n.kind = .assign name value := by
  induction h generalizing before with
  | nil => simp
  | @assign bindings n rest name value statements last kind valid more ih =>
    have hrest := ih (hb.insert kind valid)
    rw [List.append_assoc, List.singleton_append] at hrest
    refine List.forall_mem_cons.mpr ⟨?_, hrest⟩
    rintro _ ⟨rfl⟩
    exact ⟨n, by simp, value, kind⟩
  | @printName bindings n rest message statements last kind bound more ih =>
    have hrest := ih (hb.skip (gives?_of_print kind))
    rw [List.append_assoc, List.singleton_append] at hrest
    refine List.forall_mem_cons.mpr ⟨?_, hrest⟩
    rintro _ ⟨rfl⟩
    rw [Table.contains_eq_isSome, hb.value, lastValue_isSome_iff] at bound
    obtain ⟨m, hm, hvalue⟩ := bound
    exact ⟨m, List.mem_append_left _ hm, hvalue⟩
  | printText kind free more ih =>
    have hrest := ih (hb.skip (gives?_of_print kind))
    rw [List.append_assoc, List.singleton_append] at hrest
    refine List.forall_mem_cons.mpr ⟨?_, hrest⟩
    rintro _ ⟨⟩
  | other kind more ih =>
    have hrest := ih (hb.skip (gives?_of_other kind))
    rwa [List.append_assoc, List.singleton_append] at hrest

/-- The lines of a program below its header are assignments and print calls with proper literals and
names that are no keywords. Scripts may have all of them exactly if no node gives a value to the one
name that they must not bind although it is no keyword. -/
theorem lines_accepted_iff (h : w.compile strategy = .ok p) : ∃ lines,
    Straight.lines p.source.toList = "# Generated Python Code".toList :: lines ++ [[]] ∧
    (∀ line ∈ lines, AcceptedLine keywords line) ∧
    ((∀ line ∈ lines, AcceptedLine ("__debug__" :: keywords) line) ↔
      ∀ n ∈ w.nodes, ∀ value, n.kind ≠ .assign "__debug__" value) := by
  obtain ⟨nodes, hnodes, -, hemits⟩ := compile_eq_ok h
  have hnamed := hemits.named bound_nil
  have hassigned := hemits.assigned bound_nil
  refine ⟨_, lines_source hnamed, ?_, ?_⟩
  · intro line hline
    obtain ⟨statement, hs, rfl⟩ := List.mem_map.mp hline
    exact accepted_of_named (hnamed statement hs) fun name hname =>
      (bindable_of_isIdentifier (isIdentifier_of_named (hnamed statement hs) hname)).1.free
  constructor
  · intro haccepted n hn value hassign
    have hs := hemits.assign_mem ((ordered_perm hnodes).mem_iff.mpr hn) hassign
    have hline := haccepted _ (List.mem_map_of_mem hs)
    exact notMem_of_accepted (hnamed _ hs) hline List.mem_cons_self
  · intro hfree line hline
    obtain ⟨statement, hs, rfl⟩ := List.mem_map.mp hline
    refine accepted_of_named (hnamed statement hs) fun name hname => ?_
    obtain ⟨n, hn, value, hassign⟩ := hassigned statement hs name hname
    have hdebug : name ≠ "__debug__" := fun he =>
      hfree n ((ordered_perm hnodes).mem_iff.mp hn) value (he ▸ hassign)
    have hkeyword := bindable_of_isIdentifier (isIdentifier_of_named (hnamed statement hs) hname)
    simp [hdebug, hkeyword.1.free]

def debugging : Workflow :=
  { chained [] with nodes := [⟨"n", .assign "__debug__" "x", .origin, [], []⟩] }

theorem debugging_compile : debugging.compile .spatial =
    .ok ⟨[.assign "__debug__" "x"], ["n"], [("__debug__", "x")]⟩ := by
  cbv

/-- A program with a line that scripts must not have. -/
theorem debugging_line_not_accepted : ∃ p line, debugging.compile .spatial = .ok p ∧
    Straight.lines p.source.toList = ["# Generated Python Code".toList, line, []] ∧
    line = (Statement.assign "__debug__" "x").text ∧
    ¬ AcceptedLine ("__debug__" :: keywords) line := by
  have hname : isIdentifier "__debug__" := by decide
  refine ⟨_, _, debugging_compile, ?_, rfl, fun h => notMem_of_accepted hname h List.mem_cons_self⟩
  exact lines_source (List.forall_mem_singleton.mpr hname)

/-- The program that gives a value to the kept name has a line that is not accepted, and the program
without one has none. -/
theorem lines_accepted_iff_debugging :
    (∃ p lines, debugging.compile .spatial = .ok p ∧
      Straight.lines p.source.toList = "# Generated Python Code".toList :: lines ++ [[]] ∧
      (∀ line ∈ lines, AcceptedLine keywords line) ∧
      ¬ ∀ line ∈ lines, AcceptedLine ("__debug__" :: keywords) line) ∧
    ∃ p lines, rebindingWorkflow.compile .spatial = .ok p ∧
      Straight.lines p.source.toList = "# Generated Python Code".toList :: lines ++ [[]] ∧
      ∀ line ∈ lines, AcceptedLine ("__debug__" :: keywords) line := by
  have hp : rebindingWorkflow.compile .spatial = .ok rebindingProgram := by cbv
  obtain ⟨lines, hlines, haccepted, hiff⟩ := lines_accepted_iff debugging_compile
  obtain ⟨others, hothers, -, hall⟩ := lines_accepted_iff hp
  refine ⟨⟨_, lines, debugging_compile, hlines, haccepted, fun h => ?_⟩,
    ⟨_, others, hp, hothers, hall.mpr ?_⟩⟩
  · exact hiff.mp h _ List.mem_cons_self _ rfl
  · simp [rebindingWorkflow]

section

variable {text other : String} {rest more : List Char}

theorem scan_quote (text : String) : ∃ body, Text.quote text = '"' :: body ∧
    ∀ rest, scan '"' (body ++ rest) = some (text.toList, rest) :=
  ⟨_, rfl, fun rest => by simp [scan_escaped]⟩

/-- No literal goes on as another one. -/
theorem quote_append_inj (h : Text.quote text ++ rest = Text.quote other ++ more) :
    text = other ∧ rest = more := by
  obtain ⟨body, hbody, hscan⟩ := scan_quote text
  obtain ⟨body', hbody', hscan'⟩ := scan_quote other
  rw [hbody, hbody', List.cons_append, List.cons_append, List.cons.injEq] at h
  have hsame := (hscan rest).symm.trans (h.2 ▸ hscan' more)
  simpa [String.toList_inj] using hsame

/-- No escape starts with a quote, so that a text which is not empty is not taken for the end of a
literal. -/
theorem head_escape_ne_quote (c : Char) : ∃ d s, Text.escape c = d :: s ∧ d ≠ '"' := by
  obtain ⟨d, -, he⟩ | ⟨-, he⟩ | ⟨he, hq, -⟩ := Text.escape_cases c
  · exact ⟨_, _, he, by decide⟩
  · exact ⟨_, _, he, by decide⟩
  · exact ⟨_, _, he, hq⟩

/-- Only the empty literal can be taken for the start of a text between threefold quotes, and only
before another quote. -/
theorem threefold_iff :
    ['"', '"', '"'] <+: Text.quote text ++ rest ↔ text = "" ∧ ['"'] <+: rest := by
  rw [← String.toList_eq_nil_iff, Text.quote]
  cases text.toList with
  | nil => simp [List.cons_prefix_cons]
  | cons c cs =>
    obtain ⟨d, s, he, hd⟩ := head_escape_ne_quote c
    simp [he, List.cons_prefix_cons, Ne.symm hd]

/-- The quoted form of a text is a literal on one line that scripts read as the text, wherever it
stands, and it is the JSON form of the text. -/
structure ReadBack (text : String) (literal : List Char) : Prop where
  scanned : ∃ body, literal = '"' :: body ∧
    ∀ rest, scan '"' (body ++ rest) = some (text.toList, rest)
  printable : ∀ c ∈ literal, 32 ≤ c.toNat
  threefold : ∀ rest, ['"', '"', '"'] <+: literal ++ rest ↔ text = "" ∧ ['"'] <+: rest
  json : String.ofList literal = (Json.string text).render
  string : Decoder.ofText Decoder.string (String.ofList literal) = .ok text
  value : Decoder.ofText Decoder.json (String.ofList literal) = .ok (.string text)

/-- Texts survive quoting. -/
theorem quote_read_back (text : String) : ReadBack text (Text.quote text) ∧
    ∀ other rest more, Text.quote text ++ rest = Text.quote other ++ more ↔
      text = other ∧ rest = more := by
  have hrender : String.ofList (Text.quote text) = (Json.string text).render := rfl
  have hdoubles : ∀ d ∈ (Json.string text).doubles, d.ReadsBack := List.forall_mem_nil _
  refine ⟨⟨scan_quote text, fun _ => le_of_mem_quote, fun _ => threefold_iff, hrender, ?_, ?_⟩,
    fun _ _ _ => ⟨quote_append_inj, fun h => by rw [h.1, h.2]⟩⟩
  · rw [hrender, Decoder.ofText_render Decoder.string hdoubles]
    rfl
  · rw [hrender, Decoder.ofText_render Decoder.json hdoubles]
    rfl

end

end Flowboard
