import MeetingLog.Main
import MeetingLog.Meeting.Moves
import MeetingLog.Rehearsal.Run
import MeetingLog.Wire.Switchboard
import MeetingLog.Proofs.Meeting.Calm
import MeetingLog.Proofs.Meeting.Custody
import MeetingLog.Proofs.Repair.Idempotence
import MeetingLog.Proofs.Meeting.Retelling
import MeetingLog.Proofs.Repair.Adoption
import MeetingLog.Proofs.Repair.Rebuild
import MeetingLog.Proofs.Store.Views
import MeetingLog.Proofs.Record.Decoding
import MeetingLog.Proofs.Json.Torn
import MeetingLog.Proofs.Record.Torn
import MeetingLog.Proofs.Store.Crash
import MeetingLog.Proofs.Repair.Intact
import MeetingLog.Proofs.Repair.Rendering
import MeetingLog.Proofs.Meeting.Silence
import MeetingLog.Proofs.Wire.Switchboard
import MeetingLog.Proofs.Meeting.Losses
import MeetingLog.Proofs.Meeting.Holding
import MeetingLog.Proofs.Rehearsal.Due
import MeetingLog.Proofs.Rehearsal.Settling
import MeetingLog.Proofs.Rehearsal.Waiting
import MeetingLog.Proofs.Rehearsal.Keeping
import MeetingLog.Proofs.Rehearsal.Shutdown
import MeetingLog.Proofs.Meeting.Openings
import MeetingLog.Proofs.Meeting.Waking
import MeetingLog.Proofs.Meeting.Overtaking
import MeetingLog.Proofs.Repair.Order
import MeetingLog.Proofs.Statistics.Counting
import MeetingLog.Proofs.Meeting.Counting
import MeetingLog.Proofs.Trace.Normal
import MeetingLog.Proofs.Store.Retrial
import MeetingLog.Proofs.Repair.Enclosure
import MeetingLog.Proofs.Repair.FileName
import MeetingLog.Proofs.Repair.Source
import MeetingLog.Proofs.Meeting.Forgery
import MeetingLog.Proofs.Wire.Message
import MeetingLog.Proofs.Repair.Signature
