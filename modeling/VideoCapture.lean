import VideoCapture.Dma.Answered
import VideoCapture.Dma.Host
import VideoCapture.Program.Listing
import VideoCapture.Register.Window
import VideoCapture.Machine.Devices
import VideoCapture.Proofs.Program.Coverage
import VideoCapture.Proofs.Engine.Rig
import VideoCapture.Proofs.Queue.Record
import VideoCapture.Proofs.Queue.Ledger
import VideoCapture.Proofs.Queue.FailStop
import VideoCapture.Proofs.Engine.Tuning
import VideoCapture.Proofs.Queue.Watch
import VideoCapture.Proofs.Queue.Attunement
import VideoCapture.Proofs.Queue.Recovery
import VideoCapture.Proofs.Queue.Synchrony
import VideoCapture.Proofs.Queue.Confinement
import VideoCapture.Proofs.Queue.Tally
import VideoCapture.Proofs.Queue.Shutdown
import VideoCapture.Proofs.Machine.Outsiders
import VideoCapture.Proofs.Machine.Tenure
import VideoCapture.Proofs.Dma.Tiling
import VideoCapture.Proofs.Buffer.Parts
import VideoCapture.Proofs.Queue.Inventory
import VideoCapture.Proofs.Queue.Disposal
import VideoCapture.Proofs.Field.Paging
import VideoCapture.Proofs.Field.Pieces
import VideoCapture.Proofs.Program.Allowance
import VideoCapture.Proofs.Queue.Stall
import VideoCapture.Proofs.Queue.Unbroken
import VideoCapture.Proofs.Queue.Refusal
import VideoCapture.Proofs.Queue.Driving
import VideoCapture.Proofs.Queue.Overlooked
import VideoCapture.Proofs.Queue.Leftovers
import VideoCapture.Proofs.Field.Meetings
import VideoCapture.Proofs.Machine.Portrait
import VideoCapture.Proofs.Machine.References
import VideoCapture.Proofs.Machine.Disturbance
import VideoCapture.Proofs.Machine.Isolation
import VideoCapture.Proofs.Program.Demand
import VideoCapture.Proofs.Buffer.Preparation
import VideoCapture.Proofs.Buffer.Contents
import VideoCapture.Proofs.Queue.Formats
import VideoCapture.Proofs.Machine.Queues
import VideoCapture.Proofs.Machine.Formats
import VideoCapture.Proofs.Queue.Rounds
import VideoCapture.Proofs.Format.Negotiation
import VideoCapture.Proofs.Engine.Scaler
import VideoCapture.Proofs.Queue.Lasting
import VideoCapture.Proofs.Buffer.Freshness
import VideoCapture.Proofs.Queue.Renewal
import VideoCapture.Proofs.Queue.Capacity
import VideoCapture.Proofs.Machine.Provision
import VideoCapture.Proofs.Queue.Collection
import VideoCapture.Proofs.Queue.Marks
import VideoCapture.Proofs.Machine.Allotment
import VideoCapture.Proofs.Machine.Retention
import VideoCapture.Proofs.Program.Legibility
import VideoCapture.Proofs.Field.Offsets
import VideoCapture.Proofs.Register.Agreement
import VideoCapture.Proofs.Field.Interrupts
