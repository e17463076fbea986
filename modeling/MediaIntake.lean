import MediaIntake.Intake.Endpoint
import MediaIntake.Main
import MediaIntake.Proofs.Endpoint.Deliveries
import MediaIntake.Proofs.Endpoint.Runs
import MediaIntake.Proofs.Endpoint.Descriptors
import MediaIntake.Proofs.Endpoint.Connection
import MediaIntake.Proofs.Endpoint.Accounts
import MediaIntake.Proofs.Endpoint.ReusedBuffer
import MediaIntake.Proofs.Endpoint.Insertion
import MediaIntake.Proofs.Endpoint.Poison
import MediaIntake.Proofs.Format.Wave
import MediaIntake.Proofs.Format.ImageSize
import MediaIntake.Proofs.Negotiation.Advertised
import MediaIntake.Proofs.Endpoint.Advisory
import MediaIntake.Proofs.Endpoint.Steering
import MediaIntake.Proofs.Endpoint.Records
import MediaIntake.Proofs.Format.WaveFaults
import MediaIntake.Proofs.Negotiation.Readvertised
import MediaIntake.Proofs.Negotiation.Audio
import MediaIntake.Proofs.Endpoint.Faults
import MediaIntake.Proofs.Endpoint.Receipts
import MediaIntake.Proofs.Endpoint.Memory
import MediaIntake.Proofs.Endpoint.TimeAxis
import MediaIntake.Proofs.Endpoint.ShownTimes
import MediaIntake.Proofs.Negotiation.TrailingBytes
import MediaIntake.Proofs.Negotiation.Built
import MediaIntake.Proofs.Format.VideoFields
import MediaIntake.Proofs.Media.GuidNames
import MediaIntake.Proofs.Endpoint.NegotiatedTexts
import MediaIntake.Proofs.Json.Record
import MediaIntake.Proofs.Endpoint.ConfigurationTexts
import MediaIntake.Proofs.Media.Conversions
import MediaIntake.Proofs.Rehearsal.Steps
import MediaIntake.Proofs.Rehearsal.Reports
import MediaIntake.Proofs.Rehearsal.Records
import MediaIntake.Proofs.Rehearsal.Results
