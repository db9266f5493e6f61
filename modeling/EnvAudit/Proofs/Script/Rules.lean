import EnvAudit.Proofs.Script.Tokens
import EnvAudit.Script.ExpressionGrammar

/-! The rules for types, patterns and expressions lay out what they read when the table does that they refer to. Most of
them are put together by the combinators alone. A rule that looks at the next character goes by the cases of the
character, and operands and operators that wait for each other lie in the order in which they were read. -/
namespace EnvAudit.Script
open EnvAudit.Script.Parser

variable {source : List Char} {cx : Context}

class Context.IsLaying (source : List Char) (cx : Context) : Prop where
  lays : ∀ goal, Lays source (cx.read goal)

section Table
variable [table : cx.IsLaying source]

instance lays_read {goal : Goal} : Lays source (cx.read goal) := table.lays goal

instance lays_cx_statement : Lays source cx.statement := lays_read

instance lays_cx_block : Lays source cx.block := lays_read

instance lays_cx_expression : Lays source cx.expression := lays_read

instance lays_cx_sequence : Lays source cx.sequence := lays_read

instance lays_cx_type : Lays source cx.type := lays_read

instance lays_cx_binding : Lays source cx.binding := lays_read

instance lays_cx_parameters : Lays source cx.parameters := lays_read

end Table

-- The size of an instance grows with the number of steps of its rule.
set_option synthInstance.maxSize 1024

variable [cx.IsLaying source]

section Types

instance lays_computedName : Lays source (computedName cx) := by
  unfold computedName
  infer_instance

instance lays_propertyName : Lays source (propertyName cx) := by
  unfold propertyName
  refine .look fun _ => ?_
  split <;> infer_instance

instance lays_templateParts {content : Grammar} [Lays source content] : Lays source (templateParts content) := by
  unfold templateParts
  refine @lays_manyUntil _ _ (.look fun _ => ?_) _
  split <;> infer_instance

instance lays_templateOf {content : Grammar} [Lays source content] : Lays source (templateOf content) := by
  unfold templateOf
  infer_instance

instance lays_typeArguments : Lays source (typeArguments cx) := by
  unfold typeArguments
  infer_instance

instance lays_typeParameter : Lays source (typeParameter cx) := by
  unfold typeParameter
  infer_instance

instance lays_typeParameters : Lays source (typeParameters cx) := by
  unfold typeParameters
  infer_instance

instance lays_typeParametersIf : Lays source (typeParametersIf cx) := by
  unfold typeParametersIf
  infer_instance

instance lays_resultType : Lays source (resultType cx) := by
  unfold resultType
  dsimp only
  infer_instance

instance lays_resultIf : Lays source (resultIf cx) := by
  unfold resultIf
  infer_instance

instance lays_annotation : Lays source <| annotation cx := by
  unfold annotation
  infer_instance

instance lays_annotationIf : Lays source (annotationIf cx) := by
  unfold annotationIf
  infer_instance

instance lays_functionTypeTail : Lays source (functionTypeTail cx) := by
  unfold functionTypeTail
  infer_instance

instance lays_constructorType : Lays source (constructorType cx) := by
  unfold constructorType
  infer_instance

instance lays_memberEnd : Lays source memberEnd := by
  unfold memberEnd
  refine .look fun _ => ?_
  split <;> infer_instance

instance lays_signature : Lays source (signature cx) := by
  unfold signature
  infer_instance

instance lays_indexSignature : Lays source (indexSignature cx) := by
  unfold indexSignature
  infer_instance

instance peeks_modifiesMember : Peeks source modifiesMember := peeks_atPropertyName

instance lays_propertySignature : Lays source (propertySignature cx) := by
  unfold propertySignature
  infer_instance

instance lays_typeMember : Lays source (typeMember cx) := by
  unfold typeMember
  dsimp only
  infer_instance

instance lays_objectType : Lays source (objectType cx) := by
  unfold objectType
  infer_instance

instance lays_signed {grammar : Grammar} [Lays source grammar] : Lays source (signed grammar) := by
  unfold signed
  dsimp only
  infer_instance

instance lays_mappedType : Lays source (mappedType cx) := by
  unfold mappedType
  dsimp only
  infer_instance

instance lays_tupleItem : Lays source (tupleItem cx) := by
  unfold tupleItem
  dsimp only
  infer_instance

instance lays_importType : Lays source (importType cx) := by
  unfold importType
  infer_instance

instance offers_queryStep {done : List Node} : Offers source done (queryStep done) := by
  unfold queryStep
  dsimp only
  infer_instance

instance lays_queryType : Lays source (queryType cx) := by
  unfold queryType
  dsimp only
  infer_instance

instance lays_namedType : Lays source (namedType cx) := by
  unfold namedType
  dsimp only
  infer_instance

instance lays_primaryType : Lays source (primaryType cx) := by
  unfold primaryType
  refine .look fun _ => ?_
  split <;> infer_instance

instance offers_typeSuffix {done : List Node} : Offers source done (typeSuffix cx done) := by
  unfold typeSuffix
  dsimp only
  infer_instance

instance lays_suffixedType : Lays source (suffixedType cx) := by
  unfold suffixedType
  infer_instance

instance peeks_atType : Peeks source atType := by
  unfold atType
  refine .look fun _ => ?_
  split <;> infer_instance

instance lays_inferredType : Lays source (inferredType cx) := by
  unfold inferredType
  dsimp only
  infer_instance

instance lays_operatorType : Lays source (operatorType cx) := by
  unfold operatorType
  infer_instance

instance lays_unionMember : Lays source (unionMember cx) := by
  unfold unionMember
  infer_instance

instance lays_unionType : Lays source (unionType cx) := by
  unfold unionType
  dsimp only
  infer_instance

instance lays_anyType : Lays source (anyType cx) := by
  unfold anyType
  infer_instance

end Types

section Bindings

instance lays_spreadable : Lays source (spreadable cx) := by
  unfold spreadable
  infer_instance

instance lays_arguments : Lays source (arguments cx) := by
  unfold arguments
  infer_instance

instance offers_decoratorStep {done : List Node} : Offers source done (decoratorStep done) := by
  unfold decoratorStep
  infer_instance

instance lays_decorator : Lays source (decorator cx) := by
  have called (opening path types given : List Node) :
      Regroups source (opening ++ path ++ types ++ given)
        (opening ++ wrap .call (playing .function path ++ types ++ playing .arguments given)) := by
    rw [List.append_assoc opening, List.append_assoc opening]
    infer_instance
  unfold decorator
  infer_instance

instance lays_decorators : Lays source (decorators cx) := by
  unfold decorators
  infer_instance

instance lays_defaultIf : Lays source (defaultIf cx) := by
  unfold defaultIf
  infer_instance

instance lays_defaultable : Lays source (defaultable cx) := by
  unfold defaultable
  infer_instance

instance lays_restPattern : Lays source (restPattern cx) := by
  unfold restPattern
  infer_instance

instance lays_shorthandEntry : Lays source (shorthandEntry cx) := by
  unfold shorthandEntry
  infer_instance

instance lays_pairEntry : Lays source (pairEntry cx) := by
  unfold pairEntry
  infer_instance

instance lays_objectEntry : Lays source (objectEntry cx) := by
  unfold objectEntry
  infer_instance

instance lays_arrayEntry : Lays source (arrayEntry cx) := by
  unfold arrayEntry
  infer_instance

instance lays_bindingPattern : Lays source (bindingPattern cx) := by
  unfold bindingPattern
  refine .look fun _ => ?_
  split <;> infer_instance

instance lays_parameter : Lays source (parameter cx) := by
  unfold parameter
  dsimp only
  infer_instance

instance lays_parameterList : Lays source (parameterList cx) := by
  unfold parameterList
  infer_instance

instance lays_functionTail : Lays source (functionTail cx) := by
  unfold functionTail
  infer_instance

end Bindings

section Functions
variable {mode : Mode} {typed : Bool}

instance lays_arrowBody : Lays source (arrowBody cx mode) := by
  unfold arrowBody
  dsimp only
  infer_instance

instance lays_arrowHead : Lays source (arrowHead cx typed) := by
  unfold arrowHead
  dsimp only
  infer_instance

instance lays_asyncArrow : Lays source (asyncArrow cx mode typed) := by
  unfold asyncArrow
  infer_instance

instance lays_arrow : Lays source (arrow cx mode typed) := by
  unfold arrow
  dsimp only
  infer_instance

instance lays_functionExpression : Lays source (functionExpression cx) := by
  unfold functionExpression
  infer_instance

instance lays_classExpression : Lays source (classExpression cx) := by
  unfold classExpression
  dsimp only
  infer_instance

end Functions

section Values

instance lays_namedEntry : Lays source (namedEntry cx) := by
  unfold namedEntry
  infer_instance

instance lays_objectItem : Lays source (objectItem cx) := by
  unfold objectItem
  infer_instance

instance lays_objectLiteral : Lays source (objectLiteral cx) := by
  unfold objectLiteral
  infer_instance

instance lays_arrayLiteral : Lays source (arrayLiteral cx) := by
  unfold arrayLiteral
  infer_instance

instance lays_parenthesized : Lays source (parenthesized cx) := by
  unfold parenthesized
  infer_instance

instance lays_importExpression : Lays source (importExpression) := by
  unfold importExpression
  dsimp only
  infer_instance

instance lays_nameExpression : Lays source (nameExpression cx) := by
  unfold nameExpression
  refine .look fun _ => ?_
  split <;> infer_instance

instance lays_markup : Lays source (markup cx) := by
  unfold markup
  infer_instance

instance lays_primary : Lays source (primary cx) := by
  unfold primary
  refine .look fun _ => ?_
  split <;> infer_instance

end Values

section Accesses
variable {done between value : List Node} {called : Bool}

instance reads_memberOf : Reads source done (memberOf done) := by
  unfold memberOf
  infer_instance

instance reads_subscriptOf : Reads source (done ++ between) (subscriptOf cx done between) := by
  unfold subscriptOf
  infer_instance

instance reads_callOf : Reads source (done ++ between) (callOf cx done between) := by
  unfold callOf
  infer_instance

instance reads_templateCallOf : Reads source (done ++ between) (templateCallOf cx done between) := by
  unfold templateCallOf
  infer_instance

instance peeks_endsExpression : Peeks source endsExpression := by
  unfold endsExpression
  refine .look fun _ => ?_
  split <;> infer_instance

instance reads_instantiationOf : Reads source done (instantiationOf cx called done) := by
  unfold instantiationOf
  infer_instance

instance regroups_directly : Regroups source done (done ++ []) := ⟨fun laid => by rwa [List.append_nil]⟩

instance offers_accessStep : Offers source done (accessStep cx called done) := by
  have chained (dot types : List Node) : Regroups source (done ++ dot ++ types) (done ++ (dot ++ types)) := by
    rw [List.append_assoc]
    infer_instance
  unfold accessStep
  refine .look fun _ => ?_
  split
  · exact .extend reads_memberOf fun _ => inferInstance
  · dsimp only
    split
    · infer_instance
    · refine .extend (@continues_orElse _ _ _ _ _ _ ?_ reads_memberOf) fun _ => inferInstance
      refine .bind lays_sign fun dot => .look fun _ => ?_
      split
      · exact reads_subscriptOf
      · exact reads_callOf
      · exact .bind lays_typeArguments fun types => .regroup inferInstance reads_callOf
      · exact reads_templateCallOf
      · exact continues_fail
  · exact .extend (.regroup inferInstance reads_subscriptOf) fun _ => inferInstance
  · exact .extend (.regroup inferInstance reads_templateCallOf) fun _ => inferInstance
  · split
    · exact .extend (.regroup inferInstance reads_callOf) fun _ => inferInstance
    · infer_instance
  · infer_instance
  · infer_instance
  · infer_instance
  · infer_instance

instance reads_accessed : Reads source done (accessed cx called done) := by
  unfold accessed
  infer_instance

instance lays_newExpression {bound : Nat} : Lays source (newExpression cx bound) := by
  induction bound with
  | zero => exact continues_fail
  | succ bound ih =>
    unfold newExpression accessed
    dsimp only
    infer_instance

instance lays_operand : Lays source (operand cx) := by
  unfold operand
  dsimp only
  infer_instance

instance lays_typedOperand : Lays source (typedOperand cx) := by
  unfold typedOperand
  infer_instance

instance lays_prefixed : Lays source (prefixed cx) := by
  unfold prefixed
  dsimp only
  infer_instance

instance reads_counted : Reads source value (counted value) := by
  unfold counted
  infer_instance

instance lays_unary : Lays source (unary cx) := by
  unfold unary
  infer_instance

end Accesses

section Operators
variable {mode : Mode} {first condition right : List Node} {pending : List Pending}

instance peeks_operatorAt : Peeks source (operatorAt mode) := by
  unfold operatorAt
  dsimp only
  infer_instance

def waiting : List Pending → List Node
  | [] => []
  | pending :: outer => waiting outer ++ (pending.left ++ pending.operator)

theorem waiting_cons_append (last : Pending) (outer : List Pending) (right : List Node) :
    waiting (last :: outer) ++ right = waiting outer ++ (last.left ++ last.operator ++ right) := by
  rw [waiting, List.append_assoc]

instance regroups_close {last : Pending} :
    Regroups source (last.left ++ last.operator ++ right) (last.close right) := by
  unfold Pending.close
  infer_instance

instance regroups_closeAll : Regroups source (waiting pending ++ right) (closeAll pending right) := by
  induction pending generalizing right with
  | nil => exact regroups_self
  | cons last outer ih =>
    rw [waiting_cons_append, closeAll]
    exact regroups_append.trans ih

theorem regroups_closeBefore (source : List Char) (next : Binding) (pending : List Pending) (right : List Node) :
    Regroups source (waiting pending ++ right)
      (waiting (closeBefore next pending right).1 ++ (closeBefore next pending right).2) := by
  induction pending generalizing right with
  | nil => exact regroups_self
  | cons last outer ih =>
    rw [closeBefore]
    split
    · rw [waiting_cons_append]
      exact regroups_append.trans (ih _)
    · exact regroups_self

instance affirmed_ite {asserted : Bool} :
    Affirmed (Kind.isComposite (if asserted then Kind.asserted else Kind.satisfied)) := by
  cases asserted <;> exact affirmed_true

theorem reads_operations {bound : Nat} :
    Reads source (waiting pending ++ right) (operations cx mode bound pending right) := by
  -- On the number of operators that are still allowed. What waits and the operand behind it are one row, and closing
  -- operations regroups the row without moving its ends.
  induction bound generalizing pending right with
  | zero => exact continues_fail
  | succ bound ih =>
    unfold operations
    refine .look fun _ => ?_
    split
    · next text binding =>
      have grouped := regroups_closeBefore source binding pending right
      generalize closeBefore binding pending right = closed at grouped ⊢
      obtain ⟨outer, left⟩ := closed
      refine .regroup grouped (.bind lays_take fun operator => .bind lays_read fun operand => ?_)
      have goes := @ih operand (⟨left, operator, binding⟩ :: outer)
      rwa [waiting, ← List.append_assoc] at goes
    · have alone (nodes : List Node) : Reads source nodes (operations cx mode bound [] nodes) := @ih nodes []
      have again (asserted : Bool) (word type : List Node) :
          Reads source (waiting pending ++ right ++ word ++ type)
            (operations cx mode bound []
              (wrap (if asserted then .asserted else .satisfied) (closeAll pending right ++ word ++ type))) :=
        .regroup inferInstance (alone _)
      dsimp only
      infer_instance

instance reads_choice : Reads source condition (choice cx mode condition) := by
  unfold choice
  dsimp only
  infer_instance

instance reads_expressionFrom : Reads source first (expressionFrom cx mode first) := by
  have operated {bound : Nat} : Reads source first (operations cx mode bound [] first) :=
    @reads_operations _ _ _ mode first [] bound
  unfold expressionFrom
  refine .look fun _ => ?_
  split
  · infer_instance
  · exact .look fun _ => .extend operated fun _ => inferInstance

instance lays_yieldExpression : Lays source (yieldExpression cx mode) := by
  unfold yieldExpression
  infer_instance

instance lays_expression : Lays source (expression cx mode) := by
  unfold expression
  infer_instance

instance lays_sequence : Lays source (sequence cx mode) where
  laid laid stands given shown := by
    obtain ⟨first, mid, read, given⟩ := bind_eq_some given
    obtain ⟨all, last, grown, same⟩ := bind_eq_some given
    obtain ⟨j, le, one, stands⟩ := lays_read.laid laid stands read rfl
    obtain ⟨k, le', more, stands⟩ := reads_growing.laid one stands grown rfl
    cases same
    cases shown
    refine ⟨k, Nat.le_trans le le', ?_, stands⟩
    split
    · exact one.longer le'
    · exact more.wrap rfl

end Operators

end EnvAudit.Script
