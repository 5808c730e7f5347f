import FieldCalc.Pattern.Property.Packed

/-!
# Properties that a character has or has not

Those of Unicode 16.
-/

namespace FieldCalc

namespace Pattern

/-- The properties. -/
def binaryProperties : List Named :=
  [⟨["asciihexdigit", "ahex"],
    ["1WJHF1AF"]⟩,
   ⟨["alphabetic", "alpha"],
    ["2NZGZ1VAKAEAFWB1EBhPELOEHABA3IA1DRBBCDBAGABCBABTB3EB5II6JB1LCAG1O1NNBABBBBBAI1AED1DKF2DB",
     "GO3XBHEHECKCCAQ1VN3WY1GJBEAFXCSTYHKFXBFIAI1PKLDGG2XBPBCEONSBHCBCVBGBADDDHCBCBBAIAEBBEMBK",
     "AECBFEBCVBGBBBBBBEEEBCBEAHDBARFLCBIBCBVBGBBBEDIBCBBDAPDVDECBHCBCVBGBBBEDHCBCBJBEBBENAQBB",
     "FDCBDDBBABBDBDCDLEEDCBCDAGA1OMBCBWBPDHBCBCIBBCCACD1CDBHBCBWBJBEDHBCBCIBGBBDNCMMBCB1OCHBC",
     "BCBAFDHEWFBCBRDXBIBACGIFBABHSBN2FFGGA1ZBBABEBXBABSBCCEBAGAOD1GA2LHB1JESEPB1J2P2CBACEQ2LK",
     "DC1LBAFAC1QBcUBDCGBABDC1OBDC1GBDCGBABDCOB2EBDC2O1LPQ3HCFDnVCQBZF2WDKHTLUMTMMBCBBM1ZCSOAE",
     "A2P3KH1QF2RK1EBLEIX1DCEL1REZ2C1BE2KCT1YAXBLC1X1ZBOBH1Z1PCDK1RBKO2CWCK1JCKF1QCC1PDBFBBDAF",
     "7JT1HLaRCFC1LCFCHBABABAB1EC2ABGBADCBGDDCFEMFCBG4MANAQM3XAEACJBADEGABABABDBKCDFEEAR1OvH1Z",
     "1xU8UGDDBM1LBAFAC2DHAQWJGBGBGBGBGBGBGBGB1F1VAiBCZIHECEE3HGCB3LBDF1QB3PR1F1WPjS71N2MnoE2P",
     "1TCaIDPKBU1UFHD4I1NIC3YC2OCBBABHVTB1GY1ZM2PBA1SFDABCK1GF1IN1CD1YBLPAQPKEB2CJNSWD2QBABAYC",
     "CPCDLFCFCFJGBGB1QBNG4SVbxRMWE1W91CeBC4B1MGMEFLBMBEBABBBBB4D1HdYS2LC2B1OL4MEB5E1KZGZL3KDF",
     "CFCFCC1JLBZBSBBBOCN1I4S2R2AaH1CD1W1V1FN1DF1QF1DC1JEHBE1Q6BS1JE1JE1NI1ZMKBOBGBBBKBOBGBBD1",
     "ZMbYJVKHYFB1PBI2RFCAB1RBBDACWKWJ1E2NSBBKVKZ2S2DGB2MDBBFHBCB1C1Q1CD1C1JHB1B1B2BKVKSNR4G2U",
     "2D1YN1YN1N1I1BDAFW9Q1PBBDBQC2DAD1CKAIV1QR1UU1BWJ2R1REK2EJANYX1YRDI1IDAJ2LBDJBKABA1JRB1HC",
     "AGD2KGBABDBOBJH2EXDBHCBCVBGBBBEDHCBCBDAGAFG1CJBACAB1LBJBACABDBBDABA1S2NBCBDUC1E2NCBBA7C2",
     "BCGZF1I2KBADA2H2BCA2T1ACNVG7D2E3Z2L1FHCACHBBB1DBBCBCD3PHC1TCFBABB1B1YCJR2TFAS2U7R1G1FIB1",
     "SBGBA1X1DCVBN2VGBBB1RDABBBCBACBYFBBB1KBBBDBAcPWJQB1ODC4HA3BzL3Y4GR7N2tK3SP15FRFZ49QFmK7b",
     "D1U1vDlWH1ER3AR1DS1VQD1FUFSgQ1S8D2L4Y2WE2EHQ2MBBAMBO6jZI1bP1PJ9jRDBGBBBbEPA1DCCAODIfF2gU",
     "4CFMDIHJEA6eF3GB2SBBCACBCDBLBABGB2MBDCHBGB1BBDBEBADGBdBCYBYB1EBYB1EBYB1EBYB1EBYBH1yY1EGF",
     "8FGBQCGBBBEF2J1HA4I1SKGQAcJ1DS1RiQ1B8U1DCAjBGBDBBBOB7O2H2PDADA1aIDB1ABBBACABJBDBABAGAEAB",
     "ABABCBBBACABABABABABBBACDBGBDBDBABJBQFCBEBQoEZGZGZ3yK19nB1G4fTG8NC65PO7zKPnX2mWkV1lY59YF",
     "4hF"]⟩,
   ⟨["bidicontrol", "bidic"],
    ["1oEA73LB1AE2DD"]⟩,
   ⟨["bidimirrored", "bidim"],
    ["1OBSABA1CABA1DABA1TAPA3ySD20NB2mQBKB2CBOB6VA7KDDFDADBDDBDBABAEIFABRFDJBBABHB1FCDFAJBCSFB",
     "JECBEXCPIDUBHB15TN2WACDBBBCFDFCDNfNVCFBNIAHFDAEEBBCEEABCCBKFCBMSBDCABACABDFBGCYBLBEDBBCB",
     "E1QCHB1NFABADEFCEADEBA9WAjVDDBBBOBCJ1RHgLJCH1keRFFB6GBSABA1CABA1DABABBBB1mxNA2FA2FA2FA2F",
     "A"]⟩,
   ⟨["caseignorable", "ci"],
    ["1NAGALA1JABA2TAEABAEACBjJ7JEBEAJBBA9RG7ZAFA1X1SBABBBBBA1SALFKKBA1JAKUQA3XHBJBD1HABA1E1A3",
     "NK2GKEACAYX1RC1SAHBFI1P2F2DABAEHEADGKBNAPA2GAEDIAUB1AACB2FAEBEBCCDA1EBDALB2FAEEBBEAUBWFB",
     "A2GACABDIAHBLB1EA2JAMA1YADA2DABCFCBDHBLB1DA2GACAGAFBUB1CB2FBEDIAUB1DA2UAHCBA3MACGLI3UACI",
     "JABG2VB1BABABA2DNBEBBFKB1JJA3YDBFBBCBZBECQDNACBGAPA3QAnKC10KC1DB1EB1EB2MBBGIACKDAFA1TE1Z",
     "A2NB1IA4OCEBJAGC8LBCA2GABGBABACHGJCA1NAI1E1XD1WABEBAFA1OIMB1GDCBBC2EABBDABC2GHCB2MF3ECBM",
     "BGEAGADB1Y2KNA1I3WhDABCLCNCNCNBMEIBKACACE1XEBJBANAQM1Z1G35RB4JC4VAPA3S1F1VAiBA1KDDEFA3PF",
     "3PCudUA1cCFaKA3UDBJBA1CD3CBO1H3AAXC3ZCDBIADAEAZBFA5VB1ARNA1MHZK1UC1WACDCBRAVB2OFCBCBMAIA",
     "1JALA1ZABCCBFBBA1BAOBFBBA3WEJC4RACAEAlnSA5RQmBPDAMP1IACA6NAHAGALA1JABA1VA1TB2PAVCjTA8SA5",
     "TE13PFB1PBImKCBBFD1OCEA6JBmBD1MA1AEBAcDB3BD2SK1XD4TA2CO1PACBKC1XDCBCAEAKA1YC1KEBH2KAMB2A",
     "IKDCA3RCCABBGACA6BADHVB2FBDA1LGDE2SFNABABAOB3HHCCBAXA3GFBAEBBB9EDGBBB1BB3HHCABB4CABACFBA",
     "3XABACDBE9ZIBB9WBBAEA5ODCBEA1GJ1OFCDIAJFCC1UMBBfQGBFBA3EVCGBBBB4SFDABBBGBA2UBDABAdJBLB2A",
     "EFABAXA5pDQGOc8YLDC2oAE2HGJDjOC1OBiOA2LQ2MBBBhiPDBGBB3gGBBD50U1TCWkYCJPCG1ED5SC24D2CE1XI",
     "AOAWEBO1gIGBQCGBBBEF2J1HA6ENeEA2JDjNE9UBsIG4FH2xFEnfhPA1E3R4Y9F"]⟩,
   ⟨["cased"],
    ["2NZGZ1VAKAEAFWB1EB7MBDE7ZB1JHB1EE3SA1QDCBCDBAGABCBABTB3EB5II6JB1LJ1O31F1LBAFAC1QBDpW3HCF",
     "2bUKF1QCC2M7J2MaRCFC1LCFCHBABABAB1EC2ABGBADCBGDDCFEMFCBG4MANAQM3XAEACJBADEGABABABDBFEACD",
     "FEEAR1FDBvL1Z1xU8UGDDBM1LBAFAx4C1TS1D5C3XDDB2JCBBABHVEBCvP1QBNG3BloIGME13TZGZ19T3B3S1JE1",
     "J4MKBOBGBBBKBOBGBBhJACCB1PBI1aZ1YN1Y3PVKV31I2LncQ2LrrK3GB2SBBCACBCDBLBABGB2MBDCHBGB1BBDB",
     "EBADGBdBCYBYB1EBYB1EBYB1EBYB1EBYBH1yYJBTGFaB2J2cK2P26AZGZGZ"]⟩,
   ⟨["changeswhencasefolded", "cwcf"],
    ["2NZ3MAKWBH1GABABABABABABABABABABABABABABABABABABABABABABABABABABABACABABABABABABABABBBAB",
     "ABABABABABABABABABABABABABABABABABABABABABBBABABABBBABBBCCDBBBCDBBBBABABBBACABBBCBABBDAH",
     "BBBBBBABABABABABABABACABABABABABABABABACBBABCBABABABABABABABABABABABABABABABABABABABABAB",
     "ABABABABABABABAHBBBCABDBABABABA9MA1QABADAIAGABCBABBBQBIWAMCDBBABABABABABABABABABABABABBC",
     "BBABBC1Y1WABABABABABABABABABABABABABABABABAJABABABABABABABABABABABABABABABABABABABABABAB",
     "ABABABABABBBABABABABABACABABABABABABABABABABABABABABABABABABABABABABABABABABABABABABABAB",
     "ABABABABABABABABABABABABABABABAC1L1WA31G1LBAFAvEF2bUJG1QCCcIABABABABABABABABABABABABABAB",
     "ABABABABABABABABABABABABABABABABABABABABABABABABABABABABABABABABABABABABABABABABABABABAB",
     "ABABABABABABABABABABABABABABABABAFBCABABABABABABABABABABABABABABABABABABABABABABABABABAB",
     "ABABABABABABABABABABABABABABABABABABABABABABAJHIFKHIHIFLABABABAIHQ1VCCCFFCCFLDMEFCCFbLAD",
     "BGA1TPTAvMZ1yU1V1WABCCABABABDBACAICBABABABABABABABABABABABABABABABABABABABABABABABABABAB",
     "ABABABABABABABABABABABABABABABABABABABABABABAIABAEAx6JABABABABABABABABABABABABABABABABAB",
     "ABABABABABATABABABABABABABABABABABABABA5FABABABABABABADABABABABABABABABABABABABABABABABA",
     "BABABABABABABABABABABABABABAKABABBBABABABAEABACABADABABABABABABABABABABEBEBABABABABABABA",
     "BDBABBDAFABABABAYAyG3BloIGME13TZ1aZ1N5G1J6AKBOBGBB1wC1Y6BV32O1FndW1FxjK1H"]⟩,
   ⟨["changeswhencasemapped", "cwcm"],
    ["2NZGZ2GAKWB1EB2LB3FB1BCNCBBAE3OBRG1ABBBABBDBBDBECABBCAHACABBDFFAKB6KA1QDCBDCBAGABCBABTB1",
     "UD1GBEB5CI6JB1LK1M31G1LBAFAC1QCCpW3HCF2bUKF1QCC7DADAQA4J5ZCAB4NCFC1LCFCHBABABAB1EC2ABGBA",
     "DCBGDDCFEMFCBGbLADBGA1BAR1FDBvL1Z1xU4IBBBBH3XHDDBM1LBAFAx4C1TS1B5ENC2JJODCCEBYB1DCBEGYBx",
     "CA1C3BloIGME13TZGZ19T3B3S1JE1J4MKBOBGBBBKBOBGBB1uP1YN1Y3PVKV31I2LncQ2LxiE2P"]⟩,
   ⟨["changeswhenlowercased", "cwl"],
    ["2NZ3XWBG1HABABABABABABABABABABABABABABABABABABABABABABABABABABABACABABABABABABABACABABAB",
     "ABABABABABABABABABABABABABABABABABABABABBBABADBBABBBCCDBBBCDBBBBABABBBACABBBCBABBDAHBBBB",
     "BBABABABABABABABACABABABABABABABABACBBABCBABABABABABABABABABABABABABABABABABABABABABABAB",
     "ABABABABABAHBBBCABDBABABABAbDABADAIAGABCBABBBQBI1JAIABABABABABABABABABABABAFACABBC1Y1WAB",
     "ABABABABABABABABABABABABABABABAJABABABABABABABABABABABABABABABABABABABABABABABABABABABBB",
     "ABABABABABACABABABABABABABABABABABABABABABABABABABABABABABABABABABABABABABABABABABABABAB",
     "ABABABABABABABABABAC1L33D1LBAFArU3H2cLAG1QCCcIABABABABABABABABABABABABABABABABABABABABAB",
     "ABABABABABABABABABABABABABABABABABABABABABABABABABABABABABABABABABABABABABABABABABABABAB",
     "ABABABABABABABABABAJABABABABABABABABABABABABABABABABABABABABABABABABABABABABABABABABABAB",
     "ABABABABABABABABABABABABABABAJHIFKHIHIFLABABABAIHYHIHIHIELELDMELEbLADBGA1TPTAvMZ1yU1V1WA",
     "BCCABABABDBACAICBABABABABABABABABABABABABABABABABABABABABABABABABABABABABABABABABABABABA",
     "BABABABABABABABABABABABABAIABAEAx6JABABABABABABABABABABABABABABABABABABABABABABATABABABA",
     "BABABABABABABABABABA5FABABABABABABADABABABABABABABABABABABABABABABABABABABABABABABABABAB",
     "ABABABABAKABABBBABABABAEABACABADABABABABABABABABABABEBEBABABABABABABABDBABBDAFABABABAYAn",
     "uHZ1aZ1N5G1J6AKBOBGBB1wC1Y6BV32O1FndW1FxjK1H"]⟩,
   ⟨["changeswhentitlecased", "cwt"],
    ["3TZ2GA1PXBHBABABABABABABABABABABABABABABABABABABABABABABABABABABABACABABABABABABABBBABAB",
     "ABABABABABABABABABABABABABABABABABABABABACABABCCABACADAFACADCCACABABACAEACADABACADABAEAB",
     "BBBBABABABABABABABABBBABABABABABABABABCBABADABABABABABABABABABABABABABABABABABABABADABAB",
     "ABABABABABABAIACBBAEABABABABFBBBABBDBBDBECABBCAHACABBDFFAKB6KA1RABADADCSA1B1IBBDCBABABAB",
     "ABABABABABABABABEBACACA2A1VBABABABABABABABABABABABABABABABABAJABABABABABABABABABABABABAB",
     "ABABABABABABABABABABABABABACABABABABABABBBABABABABABABABABABABABABABABABABABABABABABABAB",
     "ABABABABABABABABABABABABABABABABABABABABABABABABA1X1M3yEF2bUIBA9EADAQA4KABABABABABABABAB",
     "ABABABABABABABABABABABABABABABABABABABABABABABABABABABABABABABABABABABABABABABABABABABAB",
     "ABABABABABABABABABABABABABABABABABABABABABABGFABABABABABABABABABABABABABABABABABABABABAB",
     "ABABABABABABABABABABABABABABABABABABABABABABABABABABIIFKHIHIFKHIHINCHIHIHIEBBGADCBBIDCBI",
     "HKCBBdEA1HPEAwLZ1zQ1VBADBBABABAGACAKABABABABABABABABABABABABABABABABABABABABABABABABABAB",
     "ABABABABABABABABABABABABABABABABABABABABABABABAIABAEAM1LBAFAx4DABABABABABABABABABABABABA",
     "BABABABABABABABABABATABABABABABABABABABABABABABA5FABABABABABABADABABABABABABABABABABABAB",
     "ABABABABABABABABABABABABABABABABABABAKABACABABABABAEAEABBCABABABABABABABABABALABABABABAB",
     "ABABAEABACADAFABABA1AAxCA1C3BloIGME14ZZ1bH1N5G1J5ZKBOBGBB1xB1Y4VV32O1FndW1FxjM1H"]⟩,
   ⟨["changeswhenuppercased", "cwu"],
    ["3TZ2GA1PXBHBABABABABABABABABABABABABABABABABABABABABABABABABABABABACABABABABABABABBBABAB",
     "ABABABABABABABABABABABABABABABABABABABABACABABCCABACADAFACADCCACABABACAEACADABACADABAFBB",
     "BBBBABABABABABABABBBABABABABABABABABBBBBADABABABABABABABABABABABABABABABABABABABADABABAB",
     "ABABABABABAIACBBAEABABABABFBBBABBDBBDBECABBCAHACABBDFFAKB6KA1RABADADCSA1B1IBBDCBABABABAB",
     "ABABABABABABABEBACACA2A1VBABABABABABABABABABABABABABABABABAJABABABABABABABABABABABABABAB",
     "ABABABABABABABABABABABABACABABABABABABBBABABABABABABABABABABABABABABABABABABABABABABABAB",
     "ABABABABABABABABABABABABABABABABABABABABABABABA1X1M33C1QCCtGF2bUIBA9EADAQA4KABABABABABAB",
     "ABABABABABABABABABABABABABABABABABABABABABABABABABABABABABABABABABABABABABABABABABABABAB",
     "ABABABABABABABABABABABABABABABABABABABABABABABABGFABABABABABABABABABABABABABABABABABABAB",
     "ABABABABABABABABABABABABABABABABABABABABABABABABABABABABIIFKHIHIFKHIHINC2ABBEABADCBBEADD",
     "CBIHKCBBEAcZA1HPEAwLZ1zQ1VBADBBABABAGACAKABABABABABABABABABABABABABABABABABABABABABABABA",
     "BABABABABABABABABABABABABABABABABABABABABABABABABABAIABAEAM1LBAFAx4DABABABABABABABABABAB",
     "ABABABABABABABABABABABABATABABABABABABABABABABABABABA5FABABABABABABADABABABABABABABABABA",
     "BABABABABABABABABABABABABABABABABABABABABAKABACABABABABAEAEABBCABABABABABABABABABALABABA",
     "BABABABABAEABACADAFABABA1AAxCA1C3BloIGME14ZZ1bH1N5G1J5ZKBOBGBB1xB1Y4VV32O1FndW1FxjM1H"]⟩,
   ⟨["dash"],
    ["1TA1gUA1ZA3wJA13PA27DF2JA1NAPAfAA3aIACA1FBEA1CAhEATA4HA1k8AB1LAKA6NA3xOAcGA"]⟩,
   ⟨["defaultignorablecodepoint", "di"],
    ["6RApXArOA32WB1qHB3HE26PE1AE1XP4mYA1jyPP9FA6EA3BI1flND5oXHnoxL4dN"]⟩,
   ⟨["deprecated", "dep"],
    ["cRA1eVA2gTABA28JB2eJFqVBqymKA"]⟩,
   ⟨["diacritic", "dia"],
    ["3QABA2TAGAEACBjJ6CBHFFRBEAJB9TE8BA2DQB1ABABBBA5EHEB5EBEBDC2P1A3NK2GK1IB4WH1PJQ1B2JAQADD1",
     "CA2WAQA4GAQA4GAQA1VC2IAQAHA4PA4GAQA4GAQA4FBQA4UA4HAMFBA4DANE2XB1BABABAEB2OCBB2KA4IABB1OB",
     "EEZGBAKBrDC10MB1EA5SKJAdJCbGAUHCA1WOCK4AAPA1MI2CB2GALB2OB2MF3EYEAGACC1Y2K3LL1LKhDABCLCNC",
     "NCNB3jKCcFAjMF4BD3RAw4KAMBBA1CB3EBO1H3YC4FBMA1LA5VA1BR2FD1KA3RAMA1KA5TC2ND1ZA3WEJC4YBlnS",
     "AtPPaKABA1VA1TB2PAtKA19NFB1PBIoNCEA6JBlZF1MA1AEfJC2SK1XD7KA1PA2UB4QB2KA2YAJC4AB6WB3CBQAY",
     "GDE3LCBBNB3RADA4TB9RB4WA4OB4LAaJB9YBEA6AA3FASA3DAgFA9YABB3DAgJBXA5qAOc9PA2oAE2HGlSBlAQ3C",
     "BhiCDBGBB8hH1TCWkYCDFIHCG1ED3yW2J7MGeLA2JDtMBsIG4FCBC"]⟩,
   ⟨["emoji"],
    ["1JAGAFJ4HAEA8mRAMA8IAWA3MFPBeDBMA6KAZKEC7RA8XBKAJA2GDBEJACACBCAEACABBCADADBICFABAFLLBCAB",
     "BBASACBSFBABBDBFACBEBLBFBCAFBBABBUBFFBDCAEACACFBACABABAGADAGAKBPACAEABAECBALB1WCJAOAOAeI",
     "BhVCTB1ZAEA1bUAMAnDABA3dtQA7UA6EBMBOACJ2XZBBXAUACIVB6S1HC4HCBBCC3ECCBaCB2KLFBXHBCHMACDCA",
     "EBNBCAIBJAFCMCICCABAEAGADAG3H1W2RFHCCEJDABBDACJ8TLEAaX1UBJB7C4IMDJF2DHOCKGI"]⟩,
   ⟨["emojicomponent", "ecomp"],
    ["1JAGAFJ8pJA8FA1ohRA1uoWZjNE1kADndyQ3R"]⟩,
   ⟨["emojimodifier", "emod"],
    ["3sqXE"]⟩,
   ⟨["emojimodifierbase", "ebase"],
    ["afHA8LAQD3hxVA2ICCACC4NBCKVSDAECBCHABAYA7TBEAVAEB6SCDE3FAQCJALAmDACAIHGAJJCC2EA2JBBBBARC",
     "BM8VC1QI"]⟩,
   ⟨["emojipresentation", "epres"],
    ["9lQB7XDDACAkBBVB1YL1RATANAIBRBFBIAFAVAHBBAEACAHAEB1CA1JABAECBA2JCYAOAxBB1ZAEA3ftEA7UA7IA",
     "CJ2XZBAYAUACEBCVB6S1GMIB2RBVM1QEEMQDAD2SBAB7EC2KNDBXSA1ABNA3I3G1W2RGADCCCEDLBHI8TLEAaX1U",
     "BJB7C4IMDJF2DHOCKGI"]⟩,
   ⟨["extendedpictographic", "extpict"],
    ["6NAEA8mRAMA8IAWA3MFPBeDBMA3RA2SAZKEC7RA8XBKAJA2GDBFBLB4JK4NCKBABAGADAGAKBPACAEABAECBALE1",
     "TCJAOAOAeIBhVCTB1ZAEA1bUAMAnDABA3dtM9VNC1FA2IFMBOACJS2E1BOKAUACIBDJgRFcFIaF1W4X4ML3H1QMD",
     "2EHKF1OH1E3DM1UBJBgY9W13H"]⟩,
   ⟨["extender", "ext"],
    ["7BAkQBxUAgZAoGA5HA3LAsYA4XA2jFA2EAnNAfIA2QA5cJA1RE3ZB3PCudUA1mSA11AAWA5HA4EAVBn3VA27KB1l",
     "BA1BAEA1bBAbHA4MBjEC1bJAm2FB19KBBAv0AB1aFAwUC"]⟩,
   ⟨["graphemebase", "grbase"],
    ["1G3Q1HMBmV4IHCFEGBABTB8PH6JB1LC1XCC1UABACACAJ1AEFRJLAB1TVPB3WIAGBCAE1FCAB1D1D3KLAO1QJGDX",
     "EAJADAHOBYFABKF1ER1P2F2CBABDIDBCHJC1CBBBHCBCVBGBADDDABBGBCBBANBBCEXFABFEBCVBGBBBBBBECYDB",
     "AHJCCBAMABIBCBVBGBBBEDDIABBDAPBELHAIBBHCBCVBGBBBEDACAGBCBPBBCERLABFDCBDDBBABBDBDCDLFABBD",
     "CBCDAVUGCBHBCBWBPDADDTCCACBEJHJBKBCBWBJBEDBCABBYBBBEJBCOKBCB1OCABBFCBCBBECBJEZCBBRDXBIBA",
     "CGJBGGHJCCM1VBBLHIM1LBBABEBXBABJBBJACEBAJJCD1GXC1ABABABNB1JSAFACE1XHBFBM1L1SEAGACBCYCDDP",
     "EMBBCFBOB1NBAFACeMBDCGBABDC1OBDC1GBDCGBABDCOB2EBDC2OF1CDZG3HCFCpSD3KHRNSDBJROMBCP1ZCAHHB",
     "BLIDJGJGKFJG3KHEC1HBAF2RK1EEDCCEBBFHAD1PCEL1REZGKD2ECBD2DBAJABBIFNJGJGN3I1VKDDHB1CJLC1FE",
     "BG2DBACCBAN1VIBFOD2JF1QCKLANAHDBFBCCAF7J2MaRCFC1LCFCHBABABAB1EC2ABOBNCFBSCCBIBKFXH1WQBC1",
     "ABMD1G2L5JEpPWKV1xRC1FBdFDBF1SBAFAC2DHBPWJGBGBGBGBGBGBGBG1H3P1IZB3KM8F1A2FGPB3HE3WF1QB3P",
     "B3HJ1VBvaQD2CJdJU1UEAK1FC3BCFI7XCBBABHVPBCBDBYCEEJG2DI2PKLYMB1LIYLAM1DG1VBBEBCBBMBKEGBYB",
     "1OGBCBLCBHBACJC1FB1YBADBCECABAYQCHLFCFCFJGBGB2HE4MBBBDDJGbxRMWE1W91CeBC4B1MGMEFABXBEBABB",
     "BBB4UQhCC2BHA1GPQJW1IBSBDEEB5EE6AC1EDFCFCFCCDGBGNBCLBZBSBBBOCN1I4SFCE1SD3JBMDA1V1S5B1CD1",
     "WQ1AE1JJ1DF1LK1DB1KEN1Q6BCJG1JE1JE1NI1ZLLBOBGBBBKBOBGBBD1ZMbYJVKHYFB1PBI2RFCAB1RBBDACWB2",
     "TII1WSBBF1GD1AFA2M2DETC1UPDBCB1CKIHIH2L1G1KGLJ2BD1CC1AFZHDMG3C2U2D1YN1YH1PMJG1LIXIB8A1EB",
     "1PDACBQC2H1NIVLIWRED1M1BUWJAB2BPGE1DBBCAM1WEBCBBDOYHJJ1JFAJRI1IBCL1ZJABHEBBPBTLRB1BDBEFB",
     "B2LGBABDBOBKG1UBCNJIBBHCBCVBGBBBEDABABDCBCBDAMG1CJBACAB1LBABBPABBDABCBB1N2DIBDABUBABC1E1",
     "VBBGABBBACACDIJ6K1UBBGDCAC1A1K1YIBBACDLJGMT1QBABBIBGJGT1C1ADABBEAJW7D1UJACA3W3EMHCACHBBB",
     "XBEBBGDBCJJ2SHC1PIDBD1BAK1NGBEHJAGBD1TNACIN2UHJ7A1HOJGIB1LOABFK1CD1FZAHACA2XGBBB1LVAJJGF",
     "BBB1KEBBABAHJbYSCDJOB1JIBDW3IAP1XNzM3Y4GBEL7N2tK3UN15FRFZ49QFmK7bD1DMCDJ1uSlWH1EBJE3CBJG",
     "1DHAK1VHOKJBGBUFSgQ2F7Q3M3X2WF2DLM2MD1C6jZI1bP1PJ9jRDBGBBBbEPA1DCCAODIfF2gU4CFMDIHJCACA4",
     "7K9PGgT6A4L2I9LK1MC2HFCWBH1DE2IV2NDA4STMTM3IJY5F3GB2SBBCACBCDBLBABGB2MBDCHBGB1BBDBEBADGB",
     "dBCbFClP2DD1YHBNBG17W1EGFaB2J5Q1SKGCJEBcI1DS1REJFAhW1BEJ8G1DCKEAiMGBDBBBOB7OCI1W2PHAEJEB",
     "uF2P2Y2I7MDB1ABBBACABJBDBABAGAEABABABCBBBACABABABABABBBACDBGBDBDBABJBQFCBEBQ2ABaK1RE3VMO",
     "COBOB1KK6R2E1CN1REIHBOF5Y11VEQDMD4OE3QGLEAPLE2DIJG1NI1DCLEB2KdBMNCMDJF2DHOCKGIH5QB3X13Q1",
     "9nB1G4fTG8NC65PO7zKPnX2mWkV1lY59YF4hF"]⟩,
   ⟨["graphemeextend", "grext"],
    ["tO4HaPGaD1SBABBBBBA2UK1WUQA3XGCFCBBD1JA1E1A3NK2GIJAYDBIBCBE1RC2HI1QXB1F2DABAEHEADGKB1DA2",
     "GABACDIAJAKB1AACB2FAEBEBCCDA1EBDALB2FAEEBBEAUBWFBA2GABBBDIAHCKB1EA2HABAMAJA1OADA2DABCFCB",
     "DHBLB1DA2GACBBADCBDHBLB1CB2FBBACDIAJAKB1DA2UAEACCBAIA3DACGMH3UACILG2VB1BABABA2DNBEBBFKB1",
     "JJA3YDBFBBCBZBECQDNACBGAPArBC10KD1CC1DB1EB2MBBGIACKJA1TCBA4NB1IA4OCEBJAGC8LBCA2GABGBABAC",
     "HGJCA1W1E1XD1WJEC1MIMB1GDCF2EABBDABE2EHCB5WCBMBGEAGADB7Q2LkEA7N1G3aCC5LA3S1FlIF4BBw8EDBJ",
     "1GB3CBaMADAEAZBFA5VB1ARNA1MHZKBA1SC1WACDCBCA1KA2PFCBCBMAIA1VA1ZABCCBFBBA1QBIA9EACAEAlnSA",
     "sJPQPeCBnHA8SA5TE1sGCBBFD1OCEA6JBmBD2NEcFB3BD2SK1XD4TA2CO1PACBKC1XDCBHA2JC1KEBH2KAMB2AIB",
     "AIDCA3RCCDGACA6BADHVB2FBBABAMAJAOGDE2PACFBACABCECBAOB3HHCCBAXA3DACFBACABBBB9BACDGBBB1BB3",
     "HHCABB4CABACH3XABACDBE9ZIBB9LAKDEA5ODCBEA1GJ1OFCDIAJFCC1UMBBfQGBFBA3EVCGBBBB4SFDABBBGBA2",
     "UBDABAdJBLB2AEFCXA5pTAGOc8YLDC2oAE2HG14IA2LD3DALBkyXB50Z1TCWkWEDFIHCG1ED5SC24D2CE1XIAOAW",
     "EBO1gIGBQCGBBBE3WA6EGeLA2JDjOD9UBsIG4FGnigF3R4Y9F"]⟩,
   ⟨["graphemelink", "grlink"],
    ["2jPA4XA4XA4XA4XA4XA4XA4XA4FBQA4UA4HA4XA7TA6YB1vLB1EA6BApDA8TA3XB2SB4sTAxiKA1LA5VA5MA4EAb",
     "XA9MApsRA1nIA1PAOA2FA4RB5JA4MA6YA3UA4YC4JA4XA9SA4XA4OA4MAaJA9ZB6FA3FASA3DAgFAaAB3DAgJBi1",
     "CA"]⟩,
   ⟨["hexdigit", "hex"],
    ["1WJHF1AF1xnLJHF1AF"]⟩,
   ⟨["hyphen"],
    ["1TA4XA1bWA51ZA27DB3uBAsLA1k6LA6NA3JA"]⟩,
   ⟨["idsbinaryoperator", "idsb"],
    ["d4ABCJjDA"]⟩,
   ⟨["idstrinaryoperator", "idst"],
    ["d4CB"]⟩,
   ⟨["idsunaryoperator", "idsu"],
    ["d4OB"]⟩,
   ⟨["idcompatmathcontinue"],
    ["6WBFA8oGADKBOeHAEAWA3bfEAZA1FAZA1FAZA1FAZA1FAZA"]⟩,
   ⟨["idcompatmathstart"],
    ["9aWAEAWA3bfEAZA1FAZA1FAZA1FAZA1FAZA"]⟩,
   ⟨["idcontinue", "idc"],
    ["1WJHZEABZ1VAKABACAFWB1EBhPELOEHABAR4MBBCDBAGEBABTB3EB5IBEC6JB1LCAG1OI1SBABBBBBAI1AED1DKF",
     "2VE3XBHCJBSCAQ2GC3WO2BEACAC1TS1BEKFXBFI2WB4YCJBSBHCBCVBGBADDCICBCDIAEBBECLKABACCBFEBCVBG",
     "BBBBBBCABEEBCCDAHDBAHPLCBIBCBVBGBBBECJBCBCCAPDCJJGBCBHCBCVBGBBBECICBCCHCEBBECJBAQBBFDCBD",
     "DBBABBDBDCDLEEDCBDCAGAOJQMBCBWBPCIBCBDHBBCCACDCJQDBHBCBWBJBECIBCBDHBGBBDCJBCMMBCB1YBCBEF",
     "DHECJKFBCBRDXBIBACGDAEFBABHGJCBN2FFOBJ1NBBABEBXBABWCEBABGBJCD1GAXBGJLABABAEJB1JETBRB1JJA",
     "2F2VG2ZC1LBAFAC1QBcUBDCGBABDC1OBDC1GBDCGBABDCOB2EBDC2OCCJIOPQ3HCFDnVCQBZF2WDKHVJVLTMMBCB",
     "BM3FDAEBCJ1HCBKG3KH1QF2RK1EBLELK1NCEL1REZGK1L1BE2KB1CCKGJNAINBP1X2YDJRIM4LM2DIJD1WCKF1QC",
     "CQCB1MFkNCFC1LCFCHBABABAB1EC2ABGBADCBGDDCFEMFCBGPB1XBTA1CANAQM1ZMEADLRAEACJBACFGABABABPC",
     "DFEEAR1O2vB8UGIM1LBAFAC2DHAPXJGBGBGBGBGBGBGBGB1FjXCZOBECEE3HCGB3QF1QB3PR1F1WPjS71N2MnoE2",
     "P1TCaID1BU1VEJB4K1LIC3YC2OCBBABHV2BEAT1ZM2RKJGXDAB1WC1JM1CD2MOKG1EB2CJNCJGWD2UYCCPCEKFCF",
     "CFJGBGB1QBNG4SBBCJGbxRMWE1W91CeBC4B1MGMEFLBMBEBABBBBB4D1HdYS2LC2B1OLEPQPDBYC1GEB5ETJHZEA",
     "BZK3LDFCFCFCC1JLBZBSBBBOCN1I4S2R2A5GA5A1CD1WPA1F1FN1DF1QF1DC1JEHBE1Q6BCJG1JE1JE1NI1ZMKBO",
     "BGBBBKBOBGBBD1ZMbYJVKHYFB1PBI2RFCAB1RBBDACWKWJ1E2NSBBKVKZ2S2DGB2MDBBFHBCB1CCCEA1G1CD1C1J",
     "HB1DZ2BKVKSNR4G2U2D1YN1YN1NIJG1LDEBW9Q1PBBDBQC2D1GKAI1G1FV1QU1BWJ2S1FPJ2HHANYHJG2ABJEDI1",
     "JCAJ2QEDBMBA1JRB1KGD2KGBABDBOBJH2GFJGDBHCBCVBGBBBEBJCBCCCAGAFGCGDELJBACAB1LBJBACABDBHNB1",
     "D2WFJED1E2RBAIJ6K2BCIXF1I2MDALJ1M2EHJGT1C1ACOEJGG7D2G3X2VVHCACHBBB1DBBCIMJ2SHC1TCHBB1B2K",
     "IAI2VDAS2U7R1GPJGIB1SBIPJY1DCVBN2VGBBB1RDABBBIIJGFBBB1KBBBFHJbYWJQB1ODENK3HA3BzL3Y4GR7N2",
     "tK3SP15FQVK49QFmK7bD2F1uSlWH1EBJG3ABJG1DCEL2CJDMJJUFSgQ1SDJ7Q2L4Y2WE2EHQ2MBBBLBO6jZI1bP1",
     "PJ9jRDBGBBBbEPA1DCCAODIfF2gU4CFMDIHJDB4gRJjY1TCWkWEDFIHCG1ED5SChB3GB2SBBCACBCDBLBABGB2MB",
     "DCHBGB1BBDBEBADGBdBCYBYB1EBYB1EBYB1EBYB1EBYBHC1XjS2CE1XIAOAWEBO16M1EGF8FGBQCGBBBEF2J1HA4",
     "I1SDNCJEAcJ1ER2FiC1P8G1QiRGBDBBBOB7OLG1P2XEJ19UDB1ABBBACABJBDBABAGAEABABABCBBBACABABABAB",
     "ABBBACDBGBDBDBABJBQFCBEBQ3mAJ13Q19nB1G4fTG8NC65PO7zKPnX2mWkV1lY59YF4hFl4pG9F"]⟩,
   ⟨["idstart", "ids"],
    ["2NZGZ1VAKAEAFWB1EBhPELOEHABA4ZEBBCDBAGABCBABTB3EB5II6JB1LCAG1O2T1AED1T1Q1JBB3UBAPBHBKCCA",
     "QAB1D1D3KLAY1GJBEAFVEAJADAXYHKFXBFR1P2G2BDASAHJPPEHCBCVBGBADDDAQANBBCOBKAIFEBCVBGBBBBBB1",
     "FDBATCQIBCBVBGBBBEDASAPBXALHCBCVBGBBBEDA1EBBCPARABFDCBDDBBABBDBDCDLWA2AHBCBWBPDA1ACCACB1",
     "EAEHBCBWBJBEDA1FBBBPBRIBCB1OCAQAFCICYFFRDXBIBACG2G1VBBMG2GBBABEBXBABJBBJACEBAVD1GA2LHB1J",
     "1BE4L1QUAQFEDDADBHCEMMAR1LBAFAC1QBcUBDCGBABDC1OBDC1GBDCGBABDCOB2EBDC2O1LPQ3HCFDnVCQBZF2W",
     "DKHRNSOROMBCP1Z1JAEA2P3KH1OBAF2RK1E1X1DCEL1REZ2CWJ2A3EA3P1URH2C1DNBK1R1A1J1PCK1JCKF1QCC1",
     "PDBFBBDAF7J2MaRCFC1LCFCHBABABAB1EC2ABGBADCBGDDCFEMFCBG4MANAQM3XAEACJBACFGABABABPCDFEEAR1",
     "O2vB8UGDDBM1LBAFAC2DHAQWJGBGBGBGBGBGBGBGlECZIHECEE3HEEB3LBDF1QB3PR1F1WPjS71N2MnoE2P1TCaI",
     "DPKBU1UQ1EC3B1NIC3YC2OCBBABHVPBCBDBW1D1ZO1X2KFDABBL1BKWZ1CH1U1CAQEBJKEB1OXCBHUWDAD1XBADB",
     "CECABAYCCKHCMFCFCFJGBGB1QBNG4K1DbxRMWE1W91CeBC4B1MGMEFABJBMBEBABBBBB4D1HdYS2LC2B1OL4MEB5",
     "E1KZGZL3KDFCFCFCC1JLBZBSBBBOCN1I4S2R2AaH1CD1W1V1FN1DF1LK1DC1JEHBE1Q6BS1JE1JE1NI1ZMKBOBGB",
     "BBKBOBGBBD1ZMbYJVKHYFB1PBI2RFCAB1RBBDACWKWJ1E2NSBBKVKZ2S2DGB2MAPDBCB1C1Q1CD1C1JHB1B1B2BK",
     "VKSNR4G2U2D1YN1YN1J1M1BJW9Q1PGBQC2H1CKAIV1QR1UU1BWM2A2FBCAN1S1GY1A1J1DACAI1IDAM1VODVABA1",
     "JRBYTB2LGBABDBOBJH1U1MHCBCVBGBBBEDASAME1EJBACAB1LBAZABA1S2ASDUC1E1VUBBA7C1U1PD1K1VUA2H1Q",
     "NA2T1A1LG7D1R4M2L1FHCACHBBBXPABA3QHC1MQABA1CAK1NHAVAL1TTAS2U7R1G1FIB1KRA1X1D4IGBBB1LVAZF",
     "BBB1FOAcPSPABMB1H4UA3BzL3Y4GR7N2tK3SP15FRFZ49QFmK7bD1D1vUlWH1ER3AR1DS1VQD1FUFSgQ1S8D2L4Y",
     "2WFA2OM2MBBA1C6jZI1bP1PJ9jRDBGBBBbEPA1DCCAODIfF2gU4CFMDIHJ6eK3GB2SBBCACBCDBLBABGB2MBDCHB",
     "GB1BBDBEBADGBdBCYBYB1EBYB1EBYB1EBYB1EBYBH1yY1EGFaB2J5Q1SKGQAcJ1DS1RiQ1B8U1DCAjBGBDBBBOB7",
     "O2H2PHA1aIDB1ABBBACABJBDBABAGAEABABABCBBBACABABABABABBBACDBGBDBDBABJBQFCBEBQ4qA19nB1G4fT",
     "G8NC65PO7zKPnX2mWkV1lY59YF4hF"]⟩,
   ⟨["ideographic", "ideo"],
    ["d4WBZIOC11D71N2MmfJocIeBC4Bw0KA1B6jZI1bP1PJ9yLfFl2I19nB1G4fTG8NC65PO7zKPnX2mWkV1lY59YF4h",
     "F"]⟩,
   ⟨["joincontrol", "joinc"],
    ["8rOB"]⟩,
   ⟨["logicalorderexception", "loe"],
    ["3wIE4TE2zSCCA13nMBCABB"]⟩,
   ⟨["lowercase", "lower"],
    ["3TZ1VAKAEA1KXBHBABABABABABABABABABABABABABABABABABABABABABABABABABABABBBABABABABABABABBB",
     "ABABABABABABABABABABABABABABABABABABABABABABACABABCCABACADBEACADCCACABABACABBBACADABACBC",
     "CGACACABABABABABABABABBBABABABABABABABABBCABADABABABABABABABABABABABABABABABABABABABABAB",
     "ABABABABABABABABGCACBBAEABABABAB2QB1JHB1EE3SA1RABADACDSA1B1IBBDCBABABABABABABABABABABABE",
     "BACACB1Z1VBABABABABABABABABABABABABABABABABAJABABABABABABABABABABABABABABABABABABABABABA",
     "BABABABABACABABABABABABBBABABABABABABABABABABABABABABABABABABABABABABABABABABABABABABABA",
     "BABABABABABABABABABABABABABABABA1W1O33B1QBDtGF2bUIBA4N7J2NABABABABABABABABABABABABABABAB",
     "ABABABABABABABABABABABABABABABABABABABABABABABABABABABABABABABABABABABABABABABABABABABAB",
     "ABABABABABABABABABABABABABABABIBABABABABABABABABABABABABABABABABABABABABABABABABABABABAB",
     "ABABABABABABABABABABABABABABABABABABABABIIFKHIHIFKHIHINCHIHIHIEBBGADCBBIDCBIHKCBB4RANAQM",
     "4FADBDA1BAEAEACBIDEA1HPEAwLZ1zQ1VBADBBABABAEABBBHDABABABABABABABABABABABABABABABABABABAB",
     "ABABABABABABABABABABABABABABABABABABABABABABABABABABABABABABBHABAEAM1LBAFAx4DABABABABABA",
     "BABABABABABABABABABABABABABABABABATABABABABABABABABABABABABABC5DABABABABABABCBABABABABAB",
     "ABABABABABABABABABABABABABABABABABABABABABABABABABJBABACABABABABAEABACABCBABABABABABABAB",
     "ABABAFAFABABABABABABABAEABACADABABABABABAWCBABCvP1QBNG3BloIGME14ZZ1bH1N5G1J5ZKBOBGBBhJAC",
     "CB1PBI1dL1Y4VV32O1FndW1FrsKZ1AGBR1AZ1ADBABGBK1AZ1AZ1AZ1AZ1AZ1AZ1AZ1AZ1A1B1CYBF1AYBF1AYBF",
     "1AYBF1AYBFBA1yYJBTGFaB2J2dS1H"]⟩,
   ⟨["math"],
    ["1RAQC1FA1DABA1TAEA1LA1FAsACCA1ABCCkHC74NA1BCLADANAODVELE2NMEADBEESAEACJBACFGADBCBBCBFDNB",
     "A2QXBFBBEBE1FBAGBOaHIDUB3MA1E1ABAYALGhDBMJEFEBCBDEOABACFLHFB2FABA1DDJCcY2L9WjR1WUCF1kuQA",
     "vRFBA6GAQC1DABA1DABA5BAGD3qFB1i9W3GB2SBBCACBCDBLBABGB2MBDCHBGB1BBDBEBADGBdBCbFC1X60QDB1A",
     "BBBACABJBDBABAGAEABABABCBBBACABABABABABBBACDBGBDBDBABJBQFCBEBQ2AB"]⟩,
   ⟨["modifiercombiningmark", "mcm"],
    ["1qIBCA5BAGADBiNBBCDA1FA"]⟩,
   ⟨["noncharactercodepoint", "nchar"],
    ["1xfC1FkGB1y0OB1y0OB1y0OB1y0OB1y0OB1y0OB1y0OB1y0OB1y0OB1y0OB1y0OB1y0OB1y0OB1y0OB1y0OB1y0O",
     "B"]⟩,
   ⟨["otheralphabetic", "oalpha"],
    ["wFA1DMmENBABBBBBA2UK1WMBGQA3XGEDCBEA1JA1EP3YK3XBDIBCBD4CA2ILDGGT2CBCOBBFCKB1DC2GGCBCBKAK",
     "B1DC2GEEBCBEA1EBDALC2GHBCBBVBWCEC2GGCBCBJBKB1EA2HEDCBCKA1OE2FGBCBCIBLB1DC2GGBCBCIBLBPAMD",
     "2GGBCBCKAKB1DC2XFBABHSB2JACGSA3VACFBBQA6HSJKB1J4GLBACDXDECBCCGDDNLBAKD1rOB1EB1EB1EB2OS7G",
     "B1IA4OLEI8OE2FJCT2WBLC1XE1WO2IC1EICB2FK1YSfW1H1uN1Z2gG1FwyAH1IBdQAIAXE3KB1YPBA2FA1ME1CL1",
     "TD1WL1LA2PNMAIB1TC1YABCCBFA1SEFA9DHlnVA2aDE1sGCBBFDuID2NAcJB3BA9ZC2BN1TBLC1TIJA2JC1KLSB2",
     "FC1WMOB3OICAGACA6BJXD2GGCBCBKAKB3GIBACABDBB3ZMBC4CR9DGCG1DB3EOBA4CK3ZN9XM9NFBBCBDABA5MGC",
     "FEA1CJ1QEBDSK1UNfRHBG3FVBN4SFDABBBCBADA2OEBBBDdKDJBBA1WGDCi0NQ3vCAB2CHD3PBkyYA9oJGBQCGBB",
     "BE3WA2dVA25WZGZGZ"]⟩,
   ⟨["otherdefaultignorablecodepoint", "odi"],
    ["wPA3uLB1qHB2dNA4nIA1kePA3BIpa8HAB1D3S4X9G3uL"]⟩,
   ⟨["othergraphemeextend", "ogrext"],
    ["2nYAYAdUAYA3YAYA8YABAEBBBJB3ZAYA4PAPA2iRA1EA13KAFABAFB3XA2TB14IA4eVBx4TA4EAnhLB4yMA4MAaE",
     "AOAJA3SAJACABCFA8QAMA9HAaCAoJAMA1nFAm2KBqnNBGFnoyZ3R"]⟩,
   ⟨["otheridcontinue", "oidc"],
    ["7BArRA4cJI1rCA1oZB4mRA1kgJA"]⟩,
   ⟨["otheridstart", "oids"],
    ["6pLB2cJAVA47WB"]⟩,
   ⟨["otherlowercase", "olower"],
    ["6OAPAjHIHB1EE3SA2AA3oZA3bZ2KNA1I1KqNANAQM8DPwQZ22OBxeKB8CA4ZCDBxIDJAp6SACCB1PBI1n7H2J"]⟩,
   ⟨["othermath", "omath"],
    ["3QAxXCCA1ABCB7oYA1BCLA1GDYBOB2NMEADBEESAEACJBADEGADBCBBCBFDDFE2XECDBBBBBABECBEBERCBBABGB",
     "AGBbED6MBBAYARAhDBMIFEFBCBDEOABACFYB2FABA1DDJBdEB1FJfNV2LD1GB1m3FABAEA8DABA1m6V3GB2SBBCA",
     "CBCDBLBABGB2MBDCHBGB1BBDBEBADGBdBCYBYB1EBYB1EBYB1EBYB1EBYBHC1X60QDB1ABBBACABJBDBABAGAEAB",
     "ABABCBBBACABABABABABBBACDBGBDBDBABJBQFCBEBQ"]⟩,
   ⟨["otheruppercase", "oupper"],
    ["94QPwGZ3hwYZGZGZ"]⟩,
   ⟨["patternsyntax", "patsyn"],
    ["1HOKG1ADBA1AD1IGBABBBABBEAEADAXA1FA8iEXIOCSBJbTrR6EoF1E17NjS4XeVCEYPA1k2ZBaBB"]⟩,
   ⟨["patternwhitespace", "patws"],
    ["JESA3WA8mMBYB"]⟩,
   ⟨["prependedconcatenationmark", "pcm"],
    ["1nCF8HA1XAeUB3CA205YAPA"]⟩,
   ⟨["quotationmark", "qmark"],
    ["1IAEA5BAPA8kUHZB3uDAhPDNC1kdPD7HAEA3MB"]⟩,
   ⟨["radical"],
    ["cpWZB3KM8F"]⟩,
   ⟨["regionalindicator", "ri"],
    ["3s6KZ"]⟩,
   ⟨["sentenceterminal", "sterm"],
    ["1HAMAQA1gBA5RC6YA1RC9MA2JABADBbHB1vWBuKAEBtTA7QB6BB1TAFAcCBdQD6GBKBCB1DC7FB2NBzWAXBJC3gX",
     "CbUANAWBgNAvzWAaKB8TADAeSB3IB3RA5WB5RC5OB9PAmgWACB2HADB6NAMAQA2NA2zWB1dDE1SD7HB4ND4XC4ZB",
     "GAQB3KBBB4EAbMB4NBeJBFO4BB9PCjXABA9RB3JBgEBqQB2WBkkBB5DA2NBLAlHBbKAlcGA86MA"]⟩,
   ⟨["softdotted", "sd"],
    ["4BB7OAaVA1EA2AAUAcIA3UABA6uNA1ZANADA5CA6BAgFA8GB32GA37vHB1YB1YB1YB1YB1YB1YB1YB1YB1YB1YB1",
     "YB1YB2bYAbTB1AA"]⟩,
   ⟨["terminalpunctuation", "term"],
    ["1HAKABALBDAvYAIAjTA2FA2UAOABC6YA1RKBA9BB2CFBH1FAaBB1cUB6QAEFbZBuJHtTA4UC2TB6BCDA1NDCBcCB",
     "dQD6GBKBBC1DC7FE2KBzWAXBJC3gXCbUANAEAKABBDBgMBvzVBaJC8TEeSB3IB3RA5VC5RC4XAQB9PAmgWACB2FC",
     "BD6NAKABALBDA2NACA15QA1WA18OA7RAbYB5WF2QF3LD10QE1SD7HG4ID4XC4ZBGAQB3KE4EAbMB4NCMBdUDDO4B",
     "B9PCjXABA9RB3JBEBfYC1TAoVB2WB1eXEj4ZB5DA2NCKAlHBbJBlcGA86LD"]⟩,
   ⟨["unifiedideograph", "uideo"],
    ["e8A71N2MmfJomSBBABBKABABBCC1zmC19nB1G4fTG8NC65PO7zKPnX4tQ59YF4hF"]⟩,
   ⟨["uppercase", "upper"],
    ["2NZ3XWBG1HABABABABABABABABABABABABABABABABABABABABABABABABABABABACABABABABABABABACABABAB",
     "ABABABABABABABABABABABABABABABABABABABABBBABADBBABBBCCDBBBCDBBBBABABBBACABBBCBABBDAHACAC",
     "ACABABABABABABABACABABABABABABABABACACABCBABABABABABABABABABABABABABABABABABABABABABABAB",
     "ABABABABABAHBBBCABDBABABABAbDABADAIAGABCBABBBQBI1JACCDABABABABABABABABABABABAFACABBC1Y1W",
     "ABABABABABABABABABABABABABABABABAJABABABABABABABABABABABABABABABABABABABABABABABABABABAB",
     "BBABABABABABACABABABABABABABABABABABABABABABABABABABABABABABABABABABABABABABABABABABABAB",
     "ABABABABABABABABABABAC1L33D1LBAFArU3H2cLAG1QCCcIABABABABABABABABABABABABABABABABABABABAB",
     "ABABABABABABABABABABABABABABABABABABABABABABABABABABABABABABABABABABABABABABABABABABABAB",
     "ABABABABABABABABABABAJABABABABABABABABABABABABABABABABABABABABABABABABABABABABABABABABAB",
     "ABABABABABABABABABABABABABABABAJHIFKHIHIFLABABABAIH2UDMDMDMELDaCAEADCCCCADEGABABABDCDKBF",
     "A1APTAvMZ1yU1V1WABCCABABABDBACAICBABABABABABABABABABABABABABABABABABABABABABABABABABABAB",
     "ABABABABABABABABABABABABABABABABABABABABABAIABAEAx6JABABABABABABABABABABABABABABABABABAB",
     "ABABABABATABABABABABABABABABABABABABA5FABABABABABABADABABABABABABABABABABABABABABABABABA",
     "BABABABABABABABABABABABABAKABABBBABABABAEABACABADABABABABABABABABABABEBEBABABABABABABABD",
     "BABBDAFABABABAYAnuHZ1aZ1N5G1J6AKBOBGBB1wC1Y6BV32O1FndW1FrsQZ1AZ1AZ1AABBCACBCDBH1AZ1ABBDC",
     "HBG1BBBDBEBADG1BZ1AZ1AZ1AZ1AZ1AZ1EY1HY1HY1HY1HY1HA4pL1H27IZGZGZ"]⟩,
   ⟨["variationselector", "vs"],
    ["6kTCBA1qwAPpb0Y9F"]⟩,
   ⟨["whitespace", "wspace", "space"],
    ["JESA3WA1AA5zJA2lNK1DBFA1VA49WA"]⟩,
   ⟨["xidcontinue", "xidc"],
    ["1WJHZEABZ1VAKABACAFWB1EBhPELOEHABAR4MBBDCBAGEBABTB3EB5IBEC6JB1LCAG1OI1SBABBBBBAI1AED1DKF",
     "2VE3XBHCJBSCAQ2GC3WO2BEACAC1TS1BEKFXBFI2WB4YCJBSBHCBCVBGBADDCICBCDIAEBBECLKABACCBFEBCVBG",
     "BBBBBBCABEEBCCDAHDBAHPLCBIBCBVBGBBBECJBCBCCAPDCJJGBCBHCBCVBGBBBECICBCCHCEBBECJBAQBBFDCBD",
     "DBBABBDBDCDLEEDCBDCAGAOJQMBCBWBPCIBCBDHBBCCACDCJQDBHBCBWBJBECIBCBDHBGBBDCJBCMMBCB1YBCBEF",
     "DHECJKFBCBRDXBIBACGDAEFBABHGJCBN2FFOBJ1NBBABEBXBABWCEBABGBJCD1GAXBGJLABABAEJB1JETBRB1JJA",
     "2F2VG2ZC1LBAFAC1QBcUBDCGBABDC1OBDC1GBDCGBABDCOB2EBDC2OCCJIOPQ3HCFDnVCQBZF2WDKHVJVLTMMBCB",
     "BM3FDAEBCJ1HCBKG3KH1QF2RK1EBLELK1NCEL1REZGK1L1BE2KB1CCKGJNAINBP1X2YDJRIM4LM2DIJD1WCKF1QC",
     "CQCB1MFkNCFC1LCFCHBABABAB1EC2ABGBADCBGDDCFEMFCBGPB1XBTA1CANAQM1ZMEADLRAEACJBACFGABABABPC",
     "DFEEAR1O2vB8UGIM1LBAFAC2DHAPXJGBGBGBGBGBGBGBGB1FjXCZOBECEE3HCBCCB3QF1QB3PR1F1WPjS71N2Mno",
     "E2P1TCaID1BU1VEJB4K1LIC3YC2OCBBABHV2BEAT1ZM2RKJGXDAB1WC1JM1CD2MOKG1EB2CJNCJGWD2UYCCPCEKF",
     "CFCFJGBGB1QBNG4SBBCJGbxRMWE1W91CeBC4B1MGMEFLBMBEBABBBBB4D1H5IG8JS2LC2B1OJGPQPDBYC1HABADA",
     "BABABAB4VTJHZEABZK3LDFCFCFCC1JLBZBSBBBOCN1I4S2R2A5GA5A1CD1WPA1F1FN1DF1QF1DC1JEHBE1Q6BCJG",
     "1JE1JE1NI1ZMKBOBGBBBKBOBGBBD1ZMbYJVKHYFB1PBI2RFCAB1RBBDACWKWJ1E2NSBBKVKZ2S2DGB2MDBBFHBCB",
     "1CCCEA1G1CD1C1JHB1DZ2BKVKSNR4G2U2D1YN1YN1NIJG1LDEBW9Q1PBBDBQC2D1GKAI1G1FV1QU1BWJ2S1FPJ2H",
     "HANYHJG2ABJEDI1JCAJ2QEDBMBA1JRB1KGD2KGBABDBOBJH2GFJGDBHCBCVBGBBBEBJCBCCCAGAFGCGDELJBACAB",
     "1LBJBACABDBHNB1D2WFJED1E2RBAIJ6K2BCIXF1I2MDALJ1M2EHJGT1C1ACOEJGG7D2G3X2VVHCACHBBB1DBBCIM",
     "J2SHC1TCHBB1B2KIAI2VDAS2U7R1GPJGIB1SBIPJY1DCVBN2VGBBB1RDABBBIIJGFBBB1KBBBFHJbYWJQB1ODENK",
     "3HA3BzL3Y4GR7N2tK3SP15FQVK49QFmK7bD2F1uSlWH1EBJG3ABJG1DCEL2CJDMJJUFSgQ1SDJ7Q2L4Y2WE2EHQ2",
     "MBBBLBO6jZI1bP1PJ9jRDBGBBBbEPA1DCCAODIfF2gU4CFMDIHJDB4gRJjY1TCWkWEDFIHCG1ED5SChB3GB2SBBC",
     "ACBCDBLBABGB2MBDCHBGB1BBDBEBADGBdBCYBYB1EBYB1EBYB1EBYB1EBYBHC1XjS2CE1XIAOAWEBO16M1EGF8FG",
     "BQCGBBBEF2J1HA4I1SDNCJEAcJ1ER2FiC1P8G1QiRGBDBBBOB7OLG1P2XEJ19UDB1ABBBACABJBDBABAGAEABABA",
     "BCBBBACABABABABABBBACDBGBDBDBABJBQFCBEBQ3mAJ13Q19nB1G4fTG8NC65PO7zKPnX2mWkV1lY59YF4hFl4p",
     "G9F"]⟩,
   ⟨["xidstart", "xids"],
    ["2NZGZ1VAKAEAFWB1EBhPELOEHABA4ZEBBDCBAGABCBABTB3EB5II6JB1LCAG1O2T1AED1T1Q1JBB3UBAPBHBKCCA",
     "QAB1D1D3KLAY1GJBEAFVEAJADAXYHKFXBFR1P2G2BDASAHJPPEHCBCVBGBADDDAQANBBCOBKAIFEBCVBGBBBBBB1",
     "FDBATCQIBCBVBGBBBEDASAPBXALHCBCVBGBBBEDA1EBBCPARABFDCBDDBBABBDBDCDLWA2AHBCBWBPDA1ACCACB1",
     "EAEHBCBWBJBEDA1FBBBPBRIBCB1OCAQAFCICYFFRDXBIBACG2G1VBANG2GBBABEBXBABJBAKACEBAVD1GA2LHB1J",
     "1BE4L1QUAQFEDDADBHCEMMAR1LBAFAC1QBcUBDCGBABDC1OBDC1GBDCGBABDCOB2EBDC2O1LPQ3HCFDnVCQBZF2W",
     "DKHRNSOROMBCP1Z1JAEA2P3KH1OBAF2RK1E1X1DCEL1REZ2CWJ2A3EA3P1URH2C1DNBK1R1A1J1PCK1JCKF1QCC1",
     "PDBFBBDAF7J2MaRCFC1LCFCHBABABAB1EC2ABGBADCBGDDCFEMFCBG4MANAQM3XAEACJBACFGABABABPCDFEEAR1",
     "O2vB8UGDDBM1LBAFAC2DHAQWJGBGBGBGBGBGBGBGlECZIHECEE3HGCB3LBDF1QB3PR1F1WPjS71N2MnoE2P1TCaI",
     "DPKBU1UQ1EC3B1NIC3YC2OCBBABHVPBCBDBW1D1ZO1X2KFDABBL1BKWZ1CH1U1CAQEBJKEB1OXCBHUWDAD1XBADB",
     "CECABAYCCKHCMFCFCFJGBGB1QBNG4K1DbxRMWE1W91CeBC4B1MGMEFABJBMBEBABBBBB4D1H5IG8JS2LC2B1OJ4P",
     "ABADABABABAB4V1KZGZL2DC1EDFCFCFCC1JLBZBSBBBOCN1I4S2R2AaH1CD1W1V1FN1DF1LK1DC1JEHBE1Q6BS1J",
     "E1JE1NI1ZMKBOBGBBBKBOBGBBD1ZMbYJVKHYFB1PBI2RFCAB1RBBDACWKWJ1E2NSBBKVKZ2S2DGB2MAPDBCB1C1Q",
     "1CD1C1JHB1B1B2BKVKSNR4G2U2D1YN1YN1J1M1BJW9Q1PGBQC2H1CKAIV1QR1UU1BWM2A2FBCAN1S1GY1A1J1DAC",
     "AI1IDAM1VODVABA1JRBYTB2LGBABDBOBJH1U1MHCBCVBGBBBEDASAME1EJBACAB1LBAZABA1S2ASDUC1E1VUBBA7",
     "C1U1PD1K1VUA2H1QNA2T1A1LG7D1R4M2L1FHCACHBBBXPABA3QHC1MQABA1CAK1NHAVAL1TTAS2U7R1G1FIB1KRA",
     "1X1D4IGBBB1LVAZFBBB1FOAcPSPABMB1H4UA3BzL3Y4GR7N2tK3SP15FRFZ49QFmK7bD1D1vUlWH1ER3AR1DS1VQ",
     "D1FUFSgQ1S8D2L4Y2WFA2OM2MBBA1C6jZI1bP1PJ9jRDBGBBBbEPA1DCCAODIfF2gU4CFMDIHJ6eK3GB2SBBCACB",
     "CDBLBABGB2MBDCHBGB1BBDBEBADGBdBCYBYB1EBYB1EBYB1EBYB1EBYBH1yY1EGFaB2J5Q1SKGQAcJ1DS1RiQ1B8",
     "U1DCAjBGBDBBBOB7O2H2PHA1aIDB1ABBBACABJBDBABAGAEABABABCBBBACABABABABABBBACDBGBDBDBABJBQFC",
     "BEBQ4qA19nB1G4fTG8NC65PO7zKPnX2mWkV1lY59YF4hF"]⟩]

end Pattern

end FieldCalc
