import Concord.Qualifier
import Concord.Kind
import Concord.Identity.Basic
import Concord.Identity.Word
import Concord.Identity.Hash
import Concord.Identity.Sample
import Concord.Identity.Encoding
import Concord.Ty.Basic
import Concord.Ty.Transform
import Concord.Table.Basic
import Concord.Table.Derivation
import Concord.Conversion
import Concord.Conditional
import Concord.CommonType
import Concord.CommonReference
import Concord.Pack
import Concord.Call
import Concord.Detection
import Concord.Clause
import Concord.Concept.Basic
import Concord.Concept.Construction
import Concord.Concept.Assignment
import Concord.Concept.Comparison
import Concord.Concept.Callable
import Concord.Requirement
import Concord.Catalogue.Item
import Concord.Catalogue.Basic
import Concord.Ty.Notation
import Concord.Table.Display
import Concord.Bound
import Concord.Catalogue.Native
import Concord.Source.Token
import Concord.Source.Error
import Concord.Source.Identifier
import Concord.Source.Literal
import Concord.Source.Lexer
import Concord.Source.Parser
import Concord.Source.Grammar.Bound
import Concord.Source.Grammar.Type
import Concord.Source.Grammar.Pattern
import Concord.Source.Grammar.Expression.Operand
import Concord.Source.Grammar.Item
import Concord.Source.Grammar.Statement
import Concord.Source.Grammar
import Concord.Source.Declaration
import Concord.Source.Registration.Lists
import Concord.Source.Expansion.Registration
import Concord.Source.Expansion.Ladder
import Concord.Source.Expansion.Identity
import Concord.Source.Expansion.Denotation
import Concord.Proofs.Conversion
import Concord.Proofs.Derivation
import Concord.Proofs.Conditional
import Concord.Proofs.CommonReference
import Concord.Catalogue.Numbered
import Concord.Proofs.DerivationOrder
import Concord.Proofs.Glvalue
import Concord.Proofs.CommonTypeTiers
import Concord.Proofs.Symmetry
import Concord.Proofs.Binding
import Concord.Proofs.Soundness
import Concord.Proofs.Agreement
import Concord.Proofs.ClassReference
import Concord.Proofs.Chain
import Concord.Proofs.PackConversion
import Concord.Proofs.Sharing
import Concord.Proofs.Canonical
import Concord.Proofs.LeftFold
import Concord.Proofs.ConceptSymmetry
import Concord.Proofs.EntryScope
import Concord.Proofs.Absorption
import Concord.Proofs.Promotion
import Concord.Proofs.UpperBound
import Concord.Proofs.Failure
import Concord.Proofs.Validity
import Concord.Proofs.Sameness
import Concord.Proofs.Spelling
import Concord.Proofs.Sampling
import Concord.Proofs.Encoding
import Concord.Proofs.ExactIdentity
import Concord.Proofs.Nesting
import Concord.Proofs.Collection
import Concord.Proofs.SignatureList
import Concord.Proofs.ObjectConcept
import Concord.Proofs.ValueConversion
import Concord.Proofs.Overload
import Concord.Proofs.ShortCircuit
import Concord.Proofs.NumberConcept
import Concord.Proofs.PositionBounds
