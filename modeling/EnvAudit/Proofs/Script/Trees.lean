import EnvAudit.Proofs.Script.Rules
import EnvAudit.Script.Tree

/-! Trees of whole sources. With the rules for classes, declarations, statements and markup all rules of the table lay
out what they read, level by level, and so every part of a tree lies where it says. -/
namespace EnvAudit.Script
open EnvAudit.Script.Parser

-- The size of an instance grows with the number of steps of its rule.
set_option synthInstance.maxSize 8192

variable {source : List Char} {cx : Context}

section Classes
variable [cx.IsLaying source]

instance lays_staticBlock : Lays source (staticBlock cx) := by
  unfold staticBlock
  infer_instance

instance lays_fieldEnd {inType : Bool} : Lays source (fieldEnd inType) := by
  unfold fieldEnd
  infer_instance

instance lays_namedMember : Lays source (namedMember cx) := by
  unfold namedMember
  dsimp only
  infer_instance

instance lays_indexMember : Lays source (indexMember cx) := by
  unfold indexMember
  infer_instance

instance lays_classMember : Lays source (classMember cx) := by
  unfold classMember
  infer_instance

instance lays_classBody : Lays source (classBody cx) := by
  unfold classBody
  infer_instance

instance lays_ancestor : Lays source (ancestor cx) := by
  unfold ancestor
  infer_instance

instance lays_commaSome {item : Grammar} [Lays source item] : Lays source (commaSome item) := by
  unfold commaSome
  infer_instance

instance lays_heritage : Lays source (heritage cx) := by
  unfold heritage
  infer_instance

instance lays_classTail : Lays source (classTail cx) := by
  unfold classTail
  infer_instance

end Classes

section Declarations

instance lays_closedEnd : Lays source closedEnd := by
  unfold closedEnd
  infer_instance

instance lays_variableWord : Lays source variableWord := by
  unfold variableWord
  infer_instance

instance lays_dottedName : Lays source dottedName := by
  unfold dottedName
  infer_instance

instance lays_moduleName : Lays source moduleName := by
  unfold moduleName
  infer_instance

instance lays_moduleItem : Lays source moduleItem := by
  unfold moduleItem
  dsimp only
  infer_instance

instance lays_moduleItems : Lays source moduleItems := by
  unfold moduleItems
  infer_instance

instance lays_wholeModule : Lays source wholeModule := by
  unfold wholeModule
  infer_instance

instance lays_importClause : Lays source importClause := by
  unfold importClause
  infer_instance

instance lays_importAlias : Lays source importAlias := by
  unfold importAlias
  dsimp only
  infer_instance

variable [cx.IsLaying source]

instance lays_declarator {mode : Mode} : Lays source (declarator cx mode) := by
  unfold declarator
  dsimp only
  infer_instance

instance lays_variableList {mode : Mode} : Lays source (variableList cx mode) := by
  unfold variableList
  infer_instance

instance lays_variableStatement : Lays source (variableStatement cx) := by
  unfold variableStatement
  infer_instance

instance lays_functionStatement : Lays source (functionStatement cx) := by
  unfold functionStatement
  dsimp only
  infer_instance

instance lays_classStatement : Lays source (classStatement cx) := by
  unfold classStatement
  infer_instance

instance lays_enumMember : Lays source (enumMember cx) := by
  unfold enumMember
  infer_instance

instance lays_enumStatement : Lays source (enumStatement cx) := by
  unfold enumStatement
  infer_instance

instance lays_typeStatement : Lays source (typeStatement cx) := by
  unfold typeStatement
  infer_instance

instance lays_interfaceStatement : Lays source (interfaceStatement cx) := by
  unfold interfaceStatement
  infer_instance

instance lays_namespaceStatement : Lays source (namespaceStatement cx) := by
  unfold namespaceStatement
  infer_instance

instance lays_ambientStatement : Lays source (ambientStatement cx) := by
  unfold ambientStatement
  dsimp only
  infer_instance

instance lays_moduleTraits : Lays source (moduleTraits cx) := by
  unfold moduleTraits
  infer_instance

instance lays_moduleSource : Lays source (moduleSource cx) := by
  unfold moduleSource
  infer_instance

instance lays_importStatement : Lays source (importStatement cx) := by
  unfold importStatement
  dsimp only
  infer_instance

instance lays_defaultExport : Lays source (defaultExport cx) := by
  unfold defaultExport
  dsimp only
  infer_instance

instance lays_exportedItems : Lays source (exportedItems cx) := by
  unfold exportedItems
  infer_instance

instance lays_exportedModule : Lays source (exportedModule cx) := by
  unfold exportedModule
  infer_instance

instance lays_exportStatement : Lays source (exportStatement cx) := by
  unfold exportStatement
  dsimp only
  infer_instance

end Declarations

section Statements

instance lays_markupComment : Lays source markupComment := by
  unfold markupComment
  infer_instance

instance peeks_endsAfterWord : Peeks source endsAfterWord := by
  unfold endsAfterWord
  refine .look fun _ => ?_
  split <;> infer_instance

instance lays_jumpStatement {name : String} : Lays source (jumpStatement name) := by
  unfold jumpStatement
  dsimp only
  infer_instance

instance lays_debuggerStatement : Lays source debuggerStatement := by
  unfold debuggerStatement
  infer_instance

variable [cx.IsLaying source]

instance lays_blockOf : Lays source (blockOf cx) := by
  unfold blockOf
  infer_instance

instance lays_expressionStatement : Lays source (expressionStatement cx) := by
  unfold expressionStatement
  infer_instance

instance lays_condition : Lays source (condition cx) := by
  unfold condition
  infer_instance

instance lays_ifStatement : Lays source (ifStatement cx) := by
  unfold ifStatement
  infer_instance

instance lays_whileStatement : Lays source (whileStatement cx) := by
  unfold whileStatement
  infer_instance

instance lays_withStatement : Lays source (withStatement cx) := by
  unfold withStatement
  infer_instance

instance lays_doStatement : Lays source (doStatement cx) := by
  unfold doStatement
  infer_instance

instance lays_entryLoop : Lays source (entryLoop cx) := by
  unfold entryLoop
  dsimp only
  infer_instance

instance lays_countedLoop : Lays source (countedLoop cx) := by
  unfold countedLoop
  dsimp only
  infer_instance

instance lays_forStatement : Lays source (forStatement cx) := by
  unfold forStatement
  dsimp only
  infer_instance

instance lays_switchCase : Lays source (switchCase cx) := by
  unfold switchCase
  dsimp only
  infer_instance

instance lays_switchStatement : Lays source (switchStatement cx) := by
  unfold switchStatement
  infer_instance

instance lays_catchClause : Lays source (catchClause cx) := by
  unfold catchClause
  dsimp only
  infer_instance

instance lays_tryStatement : Lays source (tryStatement cx) := by
  unfold tryStatement
  infer_instance

instance lays_returnStatement : Lays source (returnStatement cx) := by
  unfold returnStatement
  infer_instance

instance lays_throwStatement : Lays source (throwStatement cx) := by
  unfold throwStatement
  infer_instance

instance lays_labeledStatement : Lays source (labeledStatement cx) := by
  unfold labeledStatement
  infer_instance

instance lays_decoratedStatement : Lays source (decoratedStatement cx) := by
  unfold decoratedStatement
  infer_instance

theorem lays_wordStatement? {first : String} {statement : Grammar} (found : wordStatement? cx first = some statement) :
    Lays source statement := by
  unfold wordStatement? at found
  split at found <;> cases found <;> infer_instance

theorem lays_nameStatements {first : String} : LayAll source (nameStatements cx first) := by
  unfold nameStatements
  split <;> infer_instance

instance lays_anyStatement : Lays source (anyStatement cx) := by
  unfold anyStatement
  refine .look fun _ => ?_
  split
  case h_6 =>
    refine .look fun _ => ?_
    dsimp only
    split
    · next found => exact lays_wordStatement? found
    · refine lays_firstOf_of fun grammar member => ?_
      rcases List.mem_append.mp member with named | other
      · exact lays_nameStatements.lays grammar named
      · have others : LayAll source [labeledStatement cx, expressionStatement cx] := inferInstance
        exact others.lays grammar other
  all_goals infer_instance

end Statements

section Markup
variable {kind : Kind}

instance lays_markupName : Lays source (markupName kind) := by
  unfold markupName
  dsimp only
  infer_instance

instance lays_elementName : Lays source elementName := by
  unfold elementName
  infer_instance

instance lays_attributeText : Lays source attributeText := by
  unfold attributeText
  dsimp only
  infer_instance

variable [cx.IsLaying source]

instance lays_embedded : Lays source (embedded cx) := by
  unfold embedded
  dsimp only
  infer_instance

instance lays_attributeValue : Lays source (attributeValue cx) := by
  unfold attributeValue
  refine .look fun _ => ?_
  split <;> infer_instance

instance lays_elementAttribute : Lays source (elementAttribute cx) := by
  unfold elementAttribute
  infer_instance

instance lays_markupChild : Lays source (markupChild cx) := by
  unfold markupChild
  refine .look fun _ => ?_
  split <;> infer_instance

instance lays_element : Lays source (element cx) := by
  unfold element
  dsimp only
  infer_instance

end Markup

theorem lays_ruleOf [cx.IsLaying source] (goal : Goal) : Lays source (ruleOf cx goal) := by
  cases goal <;> unfold ruleOf <;> infer_instance

theorem lays_ruleTable {allowsMarkup : Bool} {levels : Nat} {goal : Goal} :
    Lays source (ruleTable allowsMarkup levels goal) := by
  induction levels generalizing goal with
  | zero => exact continues_fail
  | succ levels ih =>
    have : (⟨allowsMarkup, ruleTable allowsMarkup levels⟩ : Context).IsLaying source := ⟨fun _ => ih⟩
    exact lays_ruleOf goal

instance lays_interpreterLine : Lays source interpreterLine := by
  unfold interpreterLine
  infer_instance

theorem program_laid [cx.IsLaying source] {start last : Reading} {parts : List Node} (stands : Stands source 0 start)
    (given : program cx start = some (parts, last)) :
    ∃ k, Laid source 0 parts k ∧ last.place = placeAt source k := by
  obtain ⟨first, _, line, given⟩ := bind_eq_some given
  obtain ⟨statements, _, read, given⟩ := bind_eq_some given
  obtain ⟨_, _, got, same⟩ := bind_eq_some given
  cases got
  cases same
  obtain ⟨_, _, front, stands⟩ := lays_interpreterLine.laid (.nil (Nat.le_refl 0)) stands line rfl
  obtain ⟨_, _, back, _, _, place, comments⟩ := lays_manyUntil.laid (.nil (Nat.le_refl _)) stands read rfl
  exact ⟨_, (front.append back).append comments, place⟩

theorem parse_parts_lie {dialect : Dialect} {tree part : Node} (parsed : parse dialect source = some tree)
    (member : part ∈ tree.parts) : Lies source part := by
  obtain ⟨start, begins, parsed⟩ := Option.bind_eq_some_iff.mp parsed
  obtain ⟨⟨parts, last⟩, read, same⟩ := Option.bind_eq_some_iff.mp parsed
  cases same
  have table : (Context.mk (dialect == .markup)
      (ruleTable (dialect == .markup) (levelsFor source.length))).IsLaying source := ⟨fun _ => lays_ruleTable⟩
  obtain ⟨_, laid, _⟩ := program_laid (ofSource_stands begins) read
  obtain ⟨i, j, _, _, lies⟩ := laid.part member
  exact ⟨i, j, lies⟩

end EnvAudit.Script
