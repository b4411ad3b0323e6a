import ByteField.Main
import ByteField.ProductTable
import ByteField.Proofs.Irreducibility
import ByteField.Proofs.Logarithms
import ByteField.Proofs.FirstRepetition
import ByteField.Proofs.ProductsOfPowers
import ByteField.Proofs.ZeroDivisors
import ByteField.Proofs.Programs
import ByteField.Proofs.Renaming
import ByteField.Proofs.Command.Lines
import ByteField.Proofs.GuardedLookup
import ByteField.Proofs.DoubledInverse
import ByteField.Proofs.TablePositions
import ByteField.Proofs.ProductTable
import ByteField.Proofs.Numerals
import ByteField.Proofs.ByteLiterals
import ByteField.Proofs.QuotedText
import ByteField.Proofs.NumeralFaults
import ByteField.Proofs.ByteComplaints
import ByteField.Proofs.Rows
import ByteField.Proofs.Command.Results
import ByteField.Proofs.Command.Endings
import ByteField.Proofs.Command.RejectedPolynomials
import ByteField.Proofs.Command.Tables
import ByteField.Proofs.Command.Refusals
