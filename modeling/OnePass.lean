import OnePass.Main
import OnePass.Proofs.Expressions
import OnePass.Proofs.Failure
import OnePass.Proofs.Nesting
import OnePass.Proofs.Renaming
import OnePass.Proofs.Statements
import OnePass.Proofs.Visibility
import OnePass.Proofs.Rotation
import OnePass.Proofs.Annotations
import OnePass.Proofs.Decoding
import OnePass.Proofs.Lines
import OnePass.Proofs.Bindings
import OnePass.Proofs.Blocks
import OnePass.Proofs.Linking
import OnePass.Proofs.History
import OnePass.Proofs.Retention
import OnePass.Proofs.Texts
import OnePass.Proofs.Elements
import OnePass.Proofs.Grammar
import OnePass.Proofs.Effects
import OnePass.Proofs.Allocation
import OnePass.Proofs.Declarations
import OnePass.Proofs.Subscripts
import OnePass.Proofs.Units
import OnePass.Proofs.Holding
import OnePass.Proofs.Dump
import OnePass.Proofs.NameSupply
import OnePass.Proofs.Account
