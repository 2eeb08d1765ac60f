import DialectBinder.Binding.Report

/-! Binding of assignments. -/

namespace DialectBinder.BindingTables

/-- Convert an expression to the type it is assigned to. A missing conversion is an error, unless
either type is already one. -/
def bindAssignment (tables : BindingTables) (expr : ExprId) (target : TypeId) (state : BindingState) :
    Conversion × BindingState :=
  let query := ConversionQuery.ofExpr tables.exprs expr target
  let conversion := tables.classifier.implicit query
  let annotations := tables.classifier.commit state.annotations query
  let span := tables.exprs.spanOf expr
  let reports :=
    if conversion.isPossible then tables.conversionWarnings (annotations.get expr) expr query.source target span
    else if query.source == .error || target == .error then []
    else [tables.cannotConvert query.source target span]
  (conversion, { state with annotations }.report reports)

end DialectBinder.BindingTables
