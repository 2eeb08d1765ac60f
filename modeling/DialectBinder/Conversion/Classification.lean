import DialectBinder.Conversion.LegacyRule

/-! Classification of conversions. Lambdas and equal types come first, then the legacy rules where
the dialect has them, then the standard rules. -/

namespace DialectBinder

/-- What decided a classification. -/
inductive DecidedBy where
  | anonymousFunction
  | identity
  | legacy (rule : LegacyRule)
  | standard
deriving DecidableEq, Repr

def DecidedBy.name : DecidedBy → String
  | .anonymousFunction => "anonymous-function"
  | .identity => "identity"
  | .legacy rule => rule.name
  | .standard => "standard"

structure Classification extends ConversionOutcome where
  decidedBy : DecidedBy
deriving DecidableEq, Repr

namespace Classifier

/-- The first legacy rule that decides, with its decision. -/
def firstRule? (classifier : Classifier) (query : ConversionQuery) : Option (LegacyRule × ConversionOutcome) :=
  LegacyRule.all.findSome? fun rule => (classifier.applyRule? query rule).map (rule, ·)

/-- The implicit conversion that answers a query, and the marks that carrying it out would leave. -/
def classify (classifier : Classifier) (query : ConversionQuery) : Classification :=
  match query.expr.filter classifier.exprs.isLambda with
  | some lambda => ⟨⟨classifier.lambdaConversion lambda query.target, {}⟩, .anonymousFunction⟩
  | none =>
      if query.source == query.target then ⟨⟨.identity, {}⟩, .identity⟩
      else
        match if classifier.options.legacyRules then classifier.firstRule? query else none with
        | some (rule, outcome) => ⟨outcome, .legacy rule⟩
        | none => ⟨⟨classifier.standard.implicit classifier.types query.source query.target, {}⟩, .standard⟩

/-- The implicit conversion that answers a query. -/
def implicit (classifier : Classifier) (query : ConversionQuery) : Conversion := (classifier.classify query).conversion

/-- The conversion that a cast performs: an implicit one, boxing in the legacy dialects, or a
standard explicit one. -/
def explicit (classifier : Classifier) (query : ConversionQuery) : Conversion :=
  if (classifier.implicit query).isPossible then classifier.implicit query
  else if classifier.options.legacyRules && classifier.hasBoxing query.source query.target then .boxing
  else classifier.standard.explicit classifier.types query.source query.target

/-- Leave the marks of a conversion on its expression, and the advice among them also on the
assignment around it. -/
def commitMarks (classifier : Classifier) (table : AnnotationTable) (expr : Option ExprId) (flags : Annotations) :
    AnnotationTable :=
  match expr with
  | none => table
  | some source =>
      let marked := table.mark source flags
      match classifier.exprs.enclosingAssignment? source with
      | some assignment => marked.mark assignment flags.warnings
      | none => marked

/-- Carry out the implicit conversion that answers a query. -/
def commit (classifier : Classifier) (table : AnnotationTable) (query : ConversionQuery) : AnnotationTable :=
  classifier.commitMarks table query.expr (classifier.classify query).annotations

/-- Carry out a cast; only an implicit conversion leaves marks. -/
def commitExplicit (classifier : Classifier) (table : AnnotationTable) (query : ConversionQuery) : AnnotationTable :=
  if (classifier.implicit query).isPossible then classifier.commit table query else table

end Classifier

end DialectBinder
